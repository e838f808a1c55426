import CoordinatorGateway.Proofs.Processes.Signals
import CoordinatorGateway.Proofs.Supervisor.Moves

namespace CoordinatorGateway

variable {σ α : Type}

namespace World

def coordinator? (w : World σ) : Option Handle :=
  w.tracking.coordinator.filter fun x => !w.tracking.hasExited x && w.host.isAlive x.pid

/-- The handle of a coordinator that is not alive is gone. -/
def tidied (w : World σ) : World σ :=
  { w with tracking := { w.tracking with coordinator := w.coordinator? } }

def withoutCoordinator (w : World σ) : World σ :=
  { w with tracking := { w.tracking with coordinator := none } }

def withoutWorkers (w : World σ) : World σ :=
  { w with tracking := w.tracking.clearWorkers.2 }

def withoutWorker (w : World σ) (id : String) : World σ :=
  { w with tracking := (w.tracking.removeWorker id).2 }

variable {w : World σ} {x : Handle}

@[simp] theorem run_isAlive (w : World σ) (x : Handle) :
    w.run (isAlive x) = (!w.tracking.hasExited x && w.host.isAlive x.pid, w) := rfl

@[simp] theorem run_track (w : World σ) (step : Tracking → α × Tracking) :
    w.run (track step) = ((step w.tracking).1, { w with tracking := (step w.tracking).2 }) := rfl

theorem tidied_of_none (hx : w.tracking.coordinator = none) :
    w.coordinator? = none ∧ w.tidied = w := by
  have hcoordinator : w.coordinator? = none := by rw [coordinator?, hx, Option.filter_none]
  refine ⟨hcoordinator, ?_⟩
  rw [tidied, hcoordinator, ← hx]

theorem tidied_of_alive (hx : w.tracking.coordinator = some x)
    (halive : (w.run (isAlive x)).1 = true) : w.coordinator? = some x ∧ w.tidied = w := by
  have hcoordinator : w.coordinator? = some x := by
    rw [coordinator?, hx]
    exact Option.filter_some_pos halive
  refine ⟨hcoordinator, ?_⟩
  rw [tidied, hcoordinator, ← hx]

theorem tidied_of_dead (hx : w.tracking.coordinator = some x)
    (hdead : (w.run (isAlive x)).1 = false) :
    w.coordinator? = none ∧
      w.tidied = { w with tracking := w.tracking.clearCoordinatorIf x.generation } := by
  have hcoordinator : w.coordinator? = none := by
    rw [coordinator?, hx]
    exact Option.filter_some_neg hdead
  refine ⟨hcoordinator, ?_⟩
  rw [tidied, hcoordinator, Tracking.clearCoordinatorIf, hx]
  simp

theorem coordinator?_eq_none_or (w : World σ) :
    w.coordinator? = none ∨ w.coordinator? = w.tracking.coordinator := by
  cases hx : w.tracking.coordinator with
  | none => exact .inl (tidied_of_none hx).1
  | some x =>
    cases halive : (w.run (isAlive x)).1 with
    | false => exact .inl (tidied_of_dead hx halive).1
    | true => exact .inr (tidied_of_alive hx halive).1

theorem forgets_tidied (w : World σ) : w.tracking.Forgets w.tidied.tracking :=
  ⟨w.coordinator?_eq_none_or, fun _ _ h => h, rfl, rfl⟩

theorem reaches_tidied (w : World σ) : w.Reaches w.tidied := .single (.forget (forgets_tidied w))

theorem reaches_withoutCoordinator (w : World σ) : w.Reaches w.withoutCoordinator :=
  .single (.forget w.tracking.forgets_takeCoordinator)

end World

namespace Supervisor

open Attempt (surely)

variable (s : Supervisor)

theorem record_wanes (e : AuditEvent) : Act.Wanes (s.record e : Act σ Unit) :=
  .record s.auditEnabled e

theorem attempt_listed (w : World σ) (role : Role) :
    w.attempt (s.listed role) = ((w.host.find (s.name role)).mapError .notInspected, w) := rfl

theorem attempt_otherCoordinators (w : World σ) (own : Option Nat) :
    w.attempt (s.otherCoordinators own) =
      (((w.host.find (s.name .coordinator)).mapError .notInspected).map
        fun pids => pids.filter fun pid => some pid != own, w) := by
  rw [otherCoordinators, World.attempt_bind, attempt_listed]
  cases w.host.find (s.name .coordinator) with
  | error e => rfl
  | ok pids => rfl

theorem attempt_allCoordinators (w : World σ) :
    w.attempt (s.otherCoordinators none) =
      ((w.host.find (s.name .coordinator)).mapError .notInspected, w) := by
  have hall (pids : List Nat) : (pids.filter fun pid => some pid != none) = pids :=
    List.filter_eq_self.2 fun _ _ => rfl
  rw [attempt_otherCoordinators, funext hall]
  cases w.host.find (s.name .coordinator) with
  | error e => rfl
  | ok pids => rfl

section

variable {R : World σ → World σ → Prop} [IsPreorder (World σ) R]

theorem listed_within (role : Role) :
    Attempt.Within (s.listed role : Attempt SupervisorFault σ (List Nat)) R :=
  .get fun _ => .check _

theorem otherCoordinators_within (own : Option Nat) :
    Attempt.Within (s.otherCoordinators own : Attempt SupervisorFault σ (List Nat)) R := by
  refine Attempt.Within.bind (s.listed_within .coordinator) ?_
  intro pids
  exact .pure _

theorem withWorkerId_within (id : String) (pids : List Nat) :
    Attempt.Within (withWorkerId id pids : Attempt SupervisorFault σ (List Nat)) R := by
  induction pids with
  | nil => exact .pure _
  | cons pid pids ih =>
    apply Attempt.Within.get
    intro w
    refine Attempt.Within.bind (.check _) ?_
    intro argv
    apply Attempt.Within.bind ih
    intro rest
    exact .pure _

theorem otherWorkers_within (id : String) :
    Attempt.Within (s.otherWorkers id : Attempt SupervisorFault σ (List Nat)) R := by
  refine Attempt.Within.bind (s.listed_within .worker) ?_
  intro pids
  refine Attempt.Within.bind (withWorkerId_within id pids) ?_
  intro ofWorker
  exact .get fun _ => .pure _

end

theorem dropWorkers_wanes : Act.Wanes (dropWorkers : Act σ Unit) :=
  .track Tracking.forgets_clearWorkers fun _ => rfl

theorem run_liveCoordinator (w : World σ) : w.run liveCoordinator = (w.coordinator?, w.tidied) := by
  rw [liveCoordinator, World.run_bind, World.run_get]
  cases hx : w.tracking.coordinator with
  | none =>
    obtain ⟨hcoordinator, htidied⟩ := World.tidied_of_none hx
    rw [hcoordinator, htidied]
    rfl
  | some x =>
    have hlook : (w.run (World.isAlive x)).2 = w := rfl
    dsimp only
    rw [World.run_bind, hlook, World.run_ite]
    cases halive : (w.run (World.isAlive x)).1 with
    | false =>
      obtain ⟨hcoordinator, htidied⟩ := World.tidied_of_dead hx halive
      rw [hcoordinator, htidied]
      rfl
    | true =>
      obtain ⟨hcoordinator, htidied⟩ := World.tidied_of_alive hx halive
      rw [hcoordinator, htidied]
      rfl

def others (w : World σ) : List Nat :=
  (w.host.listing (s.name .coordinator)).filter fun pid =>
    some pid != w.coordinator?.map Handle.pid

def statusSeen (w : World σ) : CoordinatorStatus :=
  let tracked := w.coordinator?
  let others := s.others w
  ⟨tracked.isSome || !others.isEmpty, tracked.isSome, (tracked.map Handle.pid).or others.head?,
    others, tracked.map Handle.startedAt, tracked.map Handle.program⟩

def afterStatus (w : World σ) : World σ :=
  if (s.statusSeen w).running then w.tidied else w.tidied.withoutWorkers

theorem attempt_coordinatorStatus (w : World σ) :
    w.attempt s.coordinatorStatus = match w.host.outsiders.failFind with
      | some e => (.error (.notInspected e), w.tidied)
      | none => (.ok (s.statusSeen w), s.afterStatus w) := by
  rw [coordinatorStatus, World.attempt_bind, World.attempt_surely, run_liveCoordinator]
  dsimp only
  have hhost : w.tidied.host = w.host := rfl
  rw [World.attempt_bind, attempt_otherCoordinators, hhost, Host.find_eq]
  cases w.host.outsiders.failFind with
  | some e => rfl
  | none =>
    rw [afterStatus]
    change w.tidied.attempt (do
      unless (s.statusSeen w).running do
        Attempt.surely (World.track fun t => ((), t.clearWorkers.2))
      return s.statusSeen w) = _
    cases (s.statusSeen w).running with
    | true => rfl
    | false => rfl

section

variable {R : World σ → World σ → Prop} [IsPreorder (World σ) R]
  (hwanes : ∀ {w w' : World σ}, w.Wanes w' → R w w') (htidied : ∀ w : World σ, R w w.tidied)

include hwanes htidied

theorem coordinatorStatus_within :
    Attempt.Within (s.coordinatorStatus : Attempt SupervisorFault σ CoordinatorStatus) R := by
  intro w
  rw [attempt_coordinatorStatus]
  cases w.host.outsiders.failFind with
  | some e => exact htidied w
  | none =>
    rw [afterStatus]
    dsimp only
    split
    · exact htidied w
    · exact trans_of R (htidied w) (hwanes (dropWorkers_wanes w.tidied))

omit htidied in
theorem mapM_statusOf_within (hs : List Handle) :
    Act.Within (hs.mapM statusOf : Act σ (List WorkerStatus)) R := by
  induction hs with
  | nil => exact .pure _
  | cons h hs ih =>
    rw [List.mapM_cons]
    refine Act.Within.bind (fun w => hwanes .refl) ?_
    intro status
    apply Act.Within.bind ih
    intro statuses
    exact .pure _

theorem workerStatus_within :
    Attempt.Within (s.workerStatus : Attempt SupervisorFault σ (List WorkerStatus)) R := by
  apply Attempt.Within.bind (s.coordinatorStatus_within hwanes htidied)
  intro status
  apply Attempt.Within.ite
  · apply Attempt.Within.get
    intro w
    exact .surely (mapM_statusOf_within hwanes _)
  · exact .pure _

theorem workerStatusById_within (id : String) :
    Attempt.Within (s.workerStatusById id : Attempt SupervisorFault σ WorkerStatus) R := by
  refine Attempt.Within.bind (.check _) ?_
  intro u
  apply Attempt.Within.bind (s.workerStatus_within hwanes htidied)
  intro statuses
  split
  · exact .pure _
  · exact .throw _

end

theorem attempt_send (w : World σ) (pid : Nat) (signal : Signal) :
    w.attempt (send pid signal) =
      ((w.host.signal pid signal).1.mapError (.notSignalled pid),
        (w.run (World.signal pid signal)).2) := rfl

theorem signalAll_sublist {w v : World σ} {pids signalled : List Nat}
    (h : w.attempt (signalAll pids) = (.ok signalled, v)) : signalled.Sublist pids := by
  induction pids generalizing w v signalled with
  | nil =>
    obtain ⟨hsignalled, -⟩ := Prod.mk.inj h
    obtain rfl := Except.ok.inj hsignalled
    exact List.Sublist.refl []
  | cons pid pids ih =>
    obtain ⟨delivered, w₁, -, hrest⟩ := World.attempt_bind_eq_ok_iff.1 h
    obtain ⟨rest, w₂, hall, hanswer⟩ := World.attempt_bind_eq_ok_iff.1 hrest
    obtain ⟨hsignalled, -⟩ := Prod.mk.inj hanswer
    obtain rfl := Except.ok.inj hsignalled
    cases delivered with
    | true => exact (ih hall).cons_cons pid
    | false => exact (ih hall).cons pid

section

variable {R : World σ → World σ → Prop} [IsPreorder (World σ) R]

theorem send_within {pid : Nat} {signal : Signal}
    (hsignal : Act.Within (World.signal pid signal : Act σ (Except String Bool)) R) :
    Attempt.Within (send pid signal : Attempt SupervisorFault σ Bool) R := by
  apply Attempt.Within.bind (.surely hsignal)
  intro answer
  exact .check _

theorem endAfterGrace_within {x : Handle}
    (hsignal : Act.Within (World.signal x.pid .forceful : Act σ (Except String Bool)) R) :
    Act.Within (endAfterGrace x : Act σ Unit) R := by
  apply Act.Within.get
  intro w
  apply Act.Within.ite
  · exact .pure _
  · exact .discard hsignal

theorem signalAll_within {pids : List Nat} (hsignal : ∀ pid ∈ pids,
      Act.Within (World.signal pid .graceful : Act σ (Except String Bool)) R) :
    Attempt.Within (signalAll pids : Attempt SupervisorFault σ (List Nat)) R := by
  induction pids with
  | nil => exact .pure _
  | cons pid pids ih =>
    rw [List.forall_mem_cons] at hsignal
    apply Attempt.Within.bind (send_within hsignal.1)
    intro delivered
    apply Attempt.Within.bind (ih hsignal.2)
    intro rest
    exact .pure _

theorem killAll_within {pids : List Nat} (hsignal : ∀ pid ∈ pids,
      Act.Within (World.signal pid .forceful : Act σ (Except String Bool)) R) :
    Attempt.Within (killAll pids : Attempt SupervisorFault σ Unit) R := by
  induction pids with
  | nil => exact .pure _
  | cons pid pids ih =>
    rw [List.forall_mem_cons] at hsignal
    apply Attempt.Within.bind (.discard (send_within hsignal.1))
    intro u
    exact ih hsignal.2

variable (hrecord : ∀ e, Act.Within (s.record e : Act σ Unit) R)

include hrecord

theorem stopManaged_within {x : Handle} (hsignal : ∀ signal,
      Act.Within (World.signal x.pid signal : Act σ (Except String Bool)) R) :
    Attempt.Within (s.stopManaged x : Attempt SupervisorFault σ StopOutcome) R := by
  apply Attempt.Within.bind (send_within (hsignal .graceful))
  intro delivered
  apply Attempt.Within.ite
  · apply Attempt.Within.bind (.surely (endAfterGrace_within (hsignal .forceful)))
    intro u
    apply Attempt.Within.bind (.surely (hrecord _))
    intro v
    exact .pure _
  · exact .pure _

theorem stopOthers_within (role : Role) (workerId : Option String) {pids : List Nat}
    (hsignal : ∀ pid ∈ pids, ∀ signal,
      Act.Within (World.signal pid signal : Act σ (Except String Bool)) R) :
    Attempt.Within (s.stopOthers role workerId pids : Attempt SupervisorFault σ StopOutcome) R := by
  apply Attempt.Within.bind_of (signalAll_within fun pid hpid => hsignal pid hpid .graceful)
    fun _ _ _ h => (signalAll_sublist h).subset
  intro signalled hsignalled
  apply Attempt.Within.ite
  · exact .pure _
  · refine Attempt.Within.bind (s.listed_within role) ?_
    intro listed
    have hremaining : ∀ pid ∈ listed.filter signalled.contains, pid ∈ pids := by
      intro pid hpid
      exact hsignalled (List.contains_iff_mem.1 (List.mem_filter.1 hpid).2)
    apply Attempt.Within.bind
      (killAll_within fun pid hpid => hsignal pid (hremaining pid hpid) .forceful)
    intro u
    apply Attempt.Within.bind (.surely (hrecord _))
    intro v
    exact .pure _

end

theorem wanes_stopManaged (w : World σ) (h : Handle) :
    World.Wanes (w.run (World.signal h.pid .graceful)).2 (w.attempt (s.stopManaged h)).2 := by
  have hrest (delivered : Bool) : Attempt.Wanes (do
      if delivered then
        Attempt.surely (endAfterGrace h)
        Attempt.surely (s.recordStopped h.role h.id [h.pid] true false)
        return StopOutcome.stopped [h.pid] true false
      else return .notRunning : Attempt SupervisorFault σ StopOutcome) := by
    apply Attempt.Within.ite
    · apply Attempt.Within.bind (.surely (endAfterGrace_within (Act.Wanes.signal h.pid .forceful)))
      intro u
      apply Attempt.Within.bind (.surely (s.record_wanes _))
      intro v
      exact .pure _
    · exact .pure _
  rw [stopManaged, World.attempt_bind, attempt_send]
  cases (w.host.signal h.pid .graceful).1 with
  | error e => exact .refl
  | ok delivered => exact hrest delivered _

theorem stopManaged_wanes (h : Handle) :
    Attempt.Wanes (s.stopManaged h : Attempt SupervisorFault σ StopOutcome) :=
  s.stopManaged_within s.record_wanes (Act.Wanes.signal h.pid)

theorem stopOthers_wanes (role : Role) (workerId : Option String) (pids : List Nat) :
    Attempt.Wanes (s.stopOthers role workerId pids : Attempt SupervisorFault σ StopOutcome) :=
  s.stopOthers_within s.record_wanes role workerId fun pid _ => Act.Wanes.signal pid

def thenDropWorkers (a : Attempt SupervisorFault σ α) : Attempt SupervisorFault σ α := do
  let outcome ← a
  surely dropWorkers
  return outcome

theorem attempt_thenDropWorkers (w : World σ) (a : Attempt SupervisorFault σ α) :
    w.attempt (thenDropWorkers a) = match w.attempt a with
      | (.ok outcome, v) => (.ok outcome, (v.run dropWorkers).2)
      | (.error e, v) => (.error e, v) := by
  rw [thenDropWorkers, World.attempt_bind]
  rcases w.attempt a with ⟨e | outcome, v⟩
  · rfl
  · rfl

theorem wanes_thenDropWorkers (w : World σ) (a : Attempt SupervisorFault σ α) :
    World.Wanes (w.attempt a).2 (w.attempt (thenDropWorkers a)).2 := by
  rw [attempt_thenDropWorkers]
  rcases w.attempt a with ⟨e | outcome, v⟩
  · exact .refl
  · exact dropWorkers_wanes v

theorem attempt_stopCoordinator (w : World σ) :
    w.attempt s.stopCoordinator = w.withoutCoordinator.attempt
      (match w.tracking.coordinator.filter fun x => !w.tracking.hasExited x with
        | some x => thenDropWorkers (s.stopManaged x)
        | none => do
          let pids ← s.otherCoordinators none
          if pids.isEmpty then return .notRunning
          thenDropWorkers (s.stopOthers .coordinator none pids)) := rfl

theorem wanes_stopCoordinator (w : World σ) :
    w.withoutCoordinator.Wanes (w.attempt s.stopCoordinator).2 := by
  rw [attempt_stopCoordinator]
  cases w.tracking.coordinator.filter fun x => !w.tracking.hasExited x with
  | some x => exact (s.stopManaged_wanes x _).trans (wanes_thenDropWorkers _ _)
  | none =>
    have hrest : Attempt.Wanes (do
        let pids ← s.otherCoordinators none
        if pids.isEmpty then return .notRunning
        thenDropWorkers (s.stopOthers .coordinator none pids) :
          Attempt SupervisorFault σ StopOutcome) := by
      refine Attempt.Within.bind (s.otherCoordinators_within none) ?_
      intro pids
      refine Attempt.Within.ite (.pure _) ?_
      intro v
      exact (s.stopOthers_wanes _ _ _ v).trans (wanes_thenDropWorkers _ _)
    exact hrest _

theorem wanes_withoutWorker (w : World σ) (id : String) : w.Wanes (w.withoutWorker id) :=
  .single (.forgetWorkers (w.tracking.forgets_removeWorker id) rfl)

theorem attempt_stopWorker {w : World σ} {id : String}
    (hid : checked (Identifier.check "worker id" id) = .ok ()) :
    w.attempt (s.stopWorker id) = (w.withoutWorker id).attempt
      (match (w.tracking.worker? id).filter fun x => !w.tracking.hasExited x with
        | some x => s.stopManaged x
        | none => do
          let pids ← s.otherWorkers id
          if pids.isEmpty then return .notRunning
          s.stopOthers .worker (some id) pids) := by
  rw [stopWorker, World.attempt_bind, World.attempt_check, hid]
  rfl

theorem wanes_stopWorker {w : World σ} {id : String}
    (hid : checked (Identifier.check "worker id" id) = .ok ()) :
    (w.withoutWorker id).Wanes (w.attempt (s.stopWorker id)).2 := by
  rw [s.attempt_stopWorker hid]
  cases (w.tracking.worker? id).filter fun x => !w.tracking.hasExited x with
  | some x => exact s.stopManaged_wanes x _
  | none =>
    have hrest : Attempt.Wanes (do
        let pids ← s.otherWorkers id
        if pids.isEmpty then return .notRunning
        s.stopOthers .worker (some id) pids : Attempt SupervisorFault σ StopOutcome) := by
      refine Attempt.Within.bind (s.otherWorkers_within id) ?_
      intro pids
      refine Attempt.Within.ite (.pure _) ?_
      exact s.stopOthers_wanes _ _ _
    exact hrest _

theorem stopWorker_wanes (id : String) :
    Attempt.Wanes (s.stopWorker id : Attempt SupervisorFault σ StopOutcome) := by
  intro w
  cases hid : checked (Identifier.check "worker id" id) with
  | error e =>
    have hrefused : w.attempt (s.stopWorker id) = (.error e, w) := by
      rw [stopWorker, World.attempt_bind, World.attempt_check, hid]
    rw [hrefused]
  | ok u => exact (wanes_withoutWorker w id).trans (s.wanes_stopWorker hid)

/-- The graceful signal, and the forceful one where the process outlasts the grace period. -/
def endManaged (h : Handle) : Act σ Unit := do
  discard <| World.signal h.pid .graceful
  endAfterGrace h

theorem endManaged_wanes (h : Handle) : Act.Wanes (endManaged h : Act σ Unit) := by
  apply Act.Within.bind (Act.Within.discard (Act.Wanes.signal h.pid .graceful))
  intro u
  exact endAfterGrace_within (Act.Wanes.signal h.pid .forceful)

theorem stopAllManaged_within {R : World σ → World σ → Prop} [IsPreorder (World σ) R]
    (hwanes : ∀ {w w' : World σ}, w.Wanes w' → R w w')
    (htake : ∀ w : World σ, R w w.withoutCoordinator) :
    Act.Within (stopAllManaged : Act σ Unit) R := by
  have hworkers : Act.Wanes (World.track Tracking.clearWorkers : Act σ (List Handle)) :=
    .track Tracking.forgets_clearWorkers fun _ => rfl
  have hcoordinator : Act.Within
      (World.track Tracking.takeCoordinator : Act σ (Option Handle)) R := htake
  apply Act.Within.bind fun w => hwanes (hworkers w)
  intro workers
  apply Act.Within.bind hcoordinator
  intro coordinator
  apply Act.Within.get
  intro w
  exact .forIn fun h w => hwanes (endManaged_wanes h w)

theorem stopAllManaged_moves : Act.Moves (stopAllManaged : Act σ Unit) :=
  stopAllManaged_within World.Wanes.reaches World.reaches_withoutCoordinator

end Supervisor

end CoordinatorGateway
