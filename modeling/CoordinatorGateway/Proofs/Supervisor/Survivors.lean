import CoordinatorGateway.Proofs.Supervisor.Shutdown
import CoordinatorGateway.Proofs.Supervisor.Undisturbed

namespace CoordinatorGateway

variable {σ : Type}

/-- One of the two signals ends the process of the number, if there is one. -/
def Host.endable (h : Host) (pid : Nat) : Bool := h.yields .graceful pid || h.yields .forceful pid

def Host.ended (h : Host) (targets : List Nat) (pid : Nat) : Bool :=
  targets.contains pid && h.endable pid

/-- A graceful signal to all targets and a forceful one to those that outlast it do what a stop
does. -/
theorem Host.ended_eq_rounds (h : Host) (targets : List Nat) (pid : Nat) (killed : Bool)
    (hkilled : (targets.contains pid && h.yields .graceful pid) = false →
      h.yields .forceful pid = true → killed = targets.contains pid) :
    h.ended targets pid =
      (targets.contains pid && h.yields .graceful pid || killed && h.yields .forceful pid) := by
  rw [Host.ended, Host.endable, Bool.and_or_distrib_left]
  cases hgraceful : targets.contains pid && h.yields .graceful pid with
  | true => rw [Bool.true_or, Bool.true_or]
  | false =>
    cases hforceful : h.yields .forceful pid with
    | false => rw [Bool.and_false, Bool.and_false]
    | true => rw [hkilled hgraceful hforceful]

theorem contains_singleton {pid p : Nat} : [pid].contains p = (p == pid) := by
  rw [List.contains_cons, List.contains_nil, Bool.or_false]

/-- After the graceful signal nothing is left to do where the forceful one would find nobody. -/
theorem Host.eq_without_ended {h v : Host} {pid : Nat}
    (hv : v = h.without fun p => p == pid && h.yields .graceful p)
    (hdead : h.yields .forceful pid = true → v.isAlive pid = false) :
    v = h.without (h.ended [pid]) := by
  rw [hv]
  refine without_congr fun p halive => ?_
  have hunkilled : ([pid].contains p && h.yields .graceful p) = false →
      h.yields .forceful p = true → false = [pid].contains p := by
    intro hgraceful hforceful
    rw [contains_singleton] at hgraceful ⊢
    by_cases hpid : p = pid
    · subst hpid
      have hgone := hdead hforceful
      rw [hv, isAlive_without, halive, hgraceful] at hgone
      cases hgone
    · exact (beq_false_of_ne hpid).symm
  rw [h.ended_eq_rounds [pid] p false hunkilled, contains_singleton, Bool.false_and, Bool.or_false]

def Host.carries (h : Host) (id : String) (pid : Nat) : Bool :=
  (h.argv? pid).any (Arguments.has "--worker-id" id)

namespace Supervisor

open Attempt (surely)

variable (s : Supervisor)

theorem send_ok {w v : World σ} {pid : Nat} {signal : Signal} {delivered : Bool}
    (hd : w.host.Distinct) (h : w.attempt (send pid signal) = (.ok delivered, v)) :
    (v.host = w.host.without fun p => p == pid && w.host.yields signal p) ∧
      delivered = (!w.host.outsiders.gone.contains pid && w.host.isAlive pid) := by
  rw [attempt_send, Prod.mk.injEq] at h
  obtain ⟨hanswer, rfl⟩ := h
  refine ⟨hd.signal_host pid signal, ?_⟩
  rw [hd.signal pid signal] at hanswer
  cases hrefusal : w.host.refusal? pid signal with
  | some e =>
    rw [hrefusal] at hanswer
    cases hanswer
  | none =>
    rw [hrefusal] at hanswer
    exact (Except.ok.inj hanswer).symm

theorem signalAll_ok {w v : World σ} {pids signalled : List Nat} (hd : w.host.Distinct)
    (h : w.attempt (signalAll pids) = (.ok signalled, v)) :
    (v.host = w.host.without fun p => pids.contains p && w.host.yields .graceful p) ∧
      ∀ p, p ∈ signalled ↔
        p ∈ pids ∧ w.host.outsiders.gone.contains p = false ∧ w.host.isAlive p = true := by
  induction pids generalizing w signalled with
  | nil =>
    obtain ⟨hsignalled, rfl⟩ := Prod.mk.inj h
    obtain rfl := Except.ok.inj hsignalled
    refine ⟨(Host.without_eq_self fun _ _ => rfl).symm, fun p => ?_⟩
    simp
  | cons pid pids ih =>
    obtain ⟨delivered, w₁, hsend, hrest⟩ := World.attempt_bind_eq_ok_iff.1 h
    obtain ⟨rest, w₂, hall, hanswer⟩ := World.attempt_bind_eq_ok_iff.1 hrest
    obtain ⟨hsignalled, rfl⟩ := Prod.mk.inj hanswer
    replace hsignalled := Except.ok.inj hsignalled
    obtain ⟨hhost₁, hdelivered⟩ := send_ok hd hsend
    have hd₁ : w₁.host.Distinct := by
      rw [hhost₁]
      exact hd.without _
    obtain ⟨hhost₂, hmem⟩ := ih hd₁ hall
    rw [hhost₁] at hhost₂ hmem
    refine ⟨?_, fun p => ?_⟩
    · rw [hhost₂, Host.without_without]
      congr 1
      funext p
      rw [Host.yields_without, List.contains_cons, Bool.and_or_distrib_right]
    · have hsplit : p ∈ signalled ↔ p = pid ∧ delivered = true ∨ p ∈ rest := by
        rw [← hsignalled]
        cases delivered <;> simp
      have hgone : (w.host.without fun p => p == pid && w.host.yields .graceful p).outsiders.gone =
          w.host.outsiders.gone := rfl
      rw [hsplit, hmem, hgone, Host.isAlive_without, hdelivered, List.mem_cons]
      by_cases hpid : p = pid
      · subst hpid
        cases w.host.outsiders.gone.contains p <;> cases w.host.isAlive p <;> simp
      · simp [hpid]

theorem killAll_ok {w v : World σ} {pids : List Nat} (hd : w.host.Distinct)
    (h : w.attempt (killAll pids) = (.ok (), v)) :
    v.host = w.host.without fun p => pids.contains p && w.host.yields .forceful p := by
  induction pids generalizing w with
  | nil =>
    obtain ⟨-, rfl⟩ := Prod.mk.inj h
    exact (Host.without_eq_self fun _ _ => rfl).symm
  | cons pid pids ih =>
    obtain ⟨u, w₁, hdiscard, hrest⟩ := World.attempt_bind_eq_ok_iff.1 h
    obtain ⟨delivered, w₂, hsend, hanswer⟩ := World.attempt_bind_eq_ok_iff.1 hdiscard
    obtain ⟨-, rfl⟩ := Prod.mk.inj hanswer
    obtain ⟨hhost₁, -⟩ := send_ok hd hsend
    have hd₁ : w₂.host.Distinct := by
      rw [hhost₁]
      exact hd.without _
    rw [ih hd₁ hrest, hhost₁, Host.without_without]
    congr 1
    funext p
    rw [Host.yields_without, List.contains_cons, Bool.and_or_distrib_right]

theorem host_record (w : World σ) (e : AuditEvent) :
    (w.run (s.record e)).2.host = w.host := by
  rw [record, World.record]
  split
  · rfl
  · rfl

theorem listed_ok {w v : World σ} {role : Role} {pids : List Nat}
    (h : w.attempt (s.listed role) = (.ok pids, v)) :
    w.host.outsiders.failFind = none ∧ pids = w.host.listing (s.name role) ∧ v = w := by
  rw [attempt_listed] at h
  obtain ⟨hfound, rfl⟩ := Prod.mk.inj h
  rw [Except.mapError_eq_ok_iff, Host.find_eq_ok_iff] at hfound
  exact ⟨hfound.1, hfound.2.symm, rfl⟩

theorem stopOthers_ok {w v : World σ} {role : Role} {id : Option String} {pids : List Nat}
    {outcome : StopOutcome} (hd : w.host.Distinct)
    (hpids : ∀ p ∈ pids, p ∈ w.host.listing (s.name role))
    (h : w.attempt (s.stopOthers role id pids) = (.ok outcome, v)) :
    v.host = w.host.without (w.host.ended pids) := by
  obtain ⟨signalled, w₁, hall, hrest⟩ := World.attempt_bind_eq_ok_iff.1 h
  obtain ⟨hhost₁, hsignalled⟩ := signalAll_ok hd hall
  by_cases hempty : signalled.isEmpty = true
  · rw [if_pos hempty] at hrest
    obtain ⟨-, rfl⟩ := Prod.mk.inj hrest
    rw [hhost₁]
    refine Host.without_congr fun p halive => ?_
    -- Nobody was there to be signalled, so nobody is there to be killed.
    have hnobody : w.host.yields .forceful p = true → false = pids.contains p := by
      intro hforceful
      symm
      rw [← Bool.not_eq_true, List.contains_iff_mem]
      intro hp
      have hsent := (hsignalled p).2 ⟨hp, (Host.yields_iff.1 hforceful).2.1, halive⟩
      rw [List.isEmpty_iff.1 hempty] at hsent
      cases hsent
    rw [w.host.ended_eq_rounds pids p false fun _ => hnobody, Bool.false_and, Bool.or_false]
  · rw [if_neg hempty] at hrest
    obtain ⟨listed, w₂, hlist, hkills⟩ := World.attempt_bind_eq_ok_iff.1 hrest
    obtain ⟨-, hlisted, rfl⟩ := s.listed_ok hlist
    obtain ⟨u, w₃, hkill, hrecord⟩ := World.attempt_bind_eq_ok_iff.1 hkills
    have hlast : v.host = w₃.host := by
      obtain ⟨-, rfl⟩ := Prod.mk.inj hrecord
      exact s.host_record w₃ _
    have hd₂ : w₂.host.Distinct := by
      rw [hhost₁]
      exact hd.without _
    rw [hlast, killAll_ok hd₂ hkill, hhost₁, Host.without_without]
    refine Host.without_congr fun p halive => ?_
    have hremaining : p ∈ listed.filter signalled.contains ↔
        (p ∈ w.host.listing (s.name role) ∧
          (pids.contains p && w.host.yields .graceful p) = false) ∧ p ∈ signalled := by
      rw [List.mem_filter, hlisted, hhost₁, Host.listing_without, List.mem_filter,
        Bool.not_eq_true', List.contains_iff_mem]
    rw [Host.yields_without, w.host.ended_eq_rounds pids p _ ?_]
    -- What outlasts the graceful signal is listed still.
    intro hgraceful hforceful
    rw [Bool.eq_iff_iff, List.contains_iff_mem, List.contains_iff_mem, hremaining]
    constructor
    · rintro ⟨-, hsent⟩
      exact ((hsignalled p).1 hsent).1
    · intro hp
      have hgone := (Host.yields_iff.1 hforceful).2.1
      exact ⟨⟨hpids p hp, hgraceful⟩, (hsignalled p).2 ⟨hp, hgone, halive⟩⟩

theorem runs_of_isAlive {w : World σ} (hw : w.Sound) (hd : w.host.Distinct) {x : Handle}
    (hx : x ∈ w.started) (halive : w.host.isAlive x.pid = true) :
    ∃ c ∈ w.host.children, c.pid = x.pid ∧ c.isRunning = true := by
  rcases Host.isAlive_iff.1 halive with hchild | hother
  · exact hchild
  · obtain ⟨c, hc, hpid⟩ := hw.child_of_started hx
    rw [← hpid, hd.outsiders c hc] at hother
    cases hother

theorem stopManaged_ok {w v : World σ} {x : Handle} {outcome : StopOutcome} (hw : w.Sound)
    (hd : w.host.Distinct) (hx : x ∈ w.started)
    (h : w.attempt (s.stopManaged x) = (.ok outcome, v)) :
    v.host = w.host.without (w.host.ended [x.pid]) := by
  obtain ⟨delivered, w₁, hsend, hrest⟩ := World.attempt_bind_eq_ok_iff.1 h
  obtain ⟨hhost₁, hdelivered⟩ := send_ok hd hsend
  have hw₁ : w₁ = (w.run (World.signal x.pid .graceful)).2 := (congrArg Prod.snd hsend).symm
  cases delivered with
  | false =>
    rw [if_neg Bool.false_ne_true] at hrest
    obtain ⟨-, rfl⟩ := Prod.mk.inj hrest
    -- A process that could be killed would have been found.
    refine Host.eq_without_ended hhost₁ fun hforceful => ?_
    rw [(Host.yields_iff.1 hforceful).2.1, Bool.not_false, Bool.true_and] at hdelivered
    rw [hhost₁, Host.isAlive_without, ← hdelivered, Bool.false_and]
  | true =>
    rw [if_pos rfl] at hrest
    have hend : (w.run (endManaged x)).2 = (w₁.run (endAfterGrace x)).2 := by
      rw [hw₁]
      rfl
    have hlast : v.host = (w₁.run (endAfterGrace x)).2.host := by
      obtain ⟨-, rfl⟩ := Prod.mk.inj hrest
      exact s.host_record _ _
    have hd₁ : w₁.host.Distinct := by
      rw [hhost₁]
      exact hd.without _
    rw [hlast, ← hend, run_endManaged, ← hw₁]
    split
    · next hexited =>
      -- Its end is known, so no child of the number runs that could be killed.
      have hsound : w₁.Sound := by
        rw [hw₁]
        exact hw.reaches (Act.Wanes.signal x.pid .graceful w).reaches
      have hstarted : x ∈ w₁.started := by
        rw [hw₁]
        exact hx
      refine Host.eq_without_ended hhost₁ fun _ => ?_
      rw [← Bool.not_eq_true]
      intro halive
      obtain ⟨c, hc, hcpid, hrunning⟩ := runs_of_isAlive hsound hd₁ hstarted halive
      rw [hsound.ended_of_hasExited hstarted hexited hc hcpid] at hrunning
      cases hrunning
    · rw [host_signal, hd₁.signal_host, hhost₁, Host.without_without]
      congr 1
      funext p
      rw [Host.yields_without, w.host.ended_eq_rounds [x.pid] p (p == x.pid) fun _ _ =>
        contains_singleton.symm, contains_singleton]

/-- The processes that a stop of the coordinator goes for. -/
def coordinatorTargets (w : World σ) : List Nat :=
  match w.tracking.coordinator.filter fun x => !w.tracking.hasExited x with
  | some x => [x.pid]
  | none => w.host.listing (s.name .coordinator)

theorem thenDropWorkers_ok {α : Type} {w v : World σ} {a : Attempt SupervisorFault σ α} {x : α}
    (h : w.attempt (thenDropWorkers a) = (.ok x, v)) :
    ∃ v', w.attempt a = (.ok x, v') ∧ v.host = v'.host := by
  rw [attempt_thenDropWorkers] at h
  rcases ha : w.attempt a with ⟨e | y, v'⟩
  · rw [ha] at h
    cases h
  · rw [ha] at h
    obtain ⟨hanswer, rfl⟩ := Prod.mk.inj h
    rw [Except.ok.inj hanswer]
    exact ⟨v', rfl, rfl⟩

theorem host_stopCoordinator {w v : World σ} {outcome : StopOutcome} (hw : w.Sound)
    (hd : w.host.Distinct) (h : w.attempt s.stopCoordinator = (.ok outcome, v)) :
    v.host = w.host.without (w.host.ended (s.coordinatorTargets w)) := by
  rw [attempt_stopCoordinator] at h
  rw [coordinatorTargets]
  cases hmanaged : w.tracking.coordinator.filter fun x => !w.tracking.hasExited x with
  | some x =>
    rw [hmanaged] at h
    have hx := hw.coordinator x (Option.filter_eq_some_iff.1 hmanaged).1
    have hsound : w.withoutCoordinator.Sound := hw.forgets w.tracking.forgets_takeCoordinator
    obtain ⟨v', hstop, hhost⟩ := thenDropWorkers_ok h
    have hstopped := s.stopManaged_ok hsound hd hx.1 hstop
    rw [hhost]
    exact hstopped
  | none =>
    rw [hmanaged] at h
    obtain ⟨pids, w₁, hothers, hstop⟩ := World.attempt_bind_eq_ok_iff.1 h
    rw [attempt_allCoordinators] at hothers
    obtain ⟨-, rfl, rfl⟩ := s.listed_ok hothers
    by_cases hempty : (w.withoutCoordinator.host.listing (s.name .coordinator)).isEmpty = true
    · rw [if_pos hempty] at hstop
      obtain ⟨-, rfl⟩ := Prod.mk.inj hstop
      have hnobody : w.host.listing (s.name .coordinator) = [] := List.isEmpty_iff.1 hempty
      dsimp only
      rw [hnobody]
      exact (Host.without_eq_self fun _ _ => rfl).symm
    · rw [if_neg hempty] at hstop
      obtain ⟨v', hstop, hhost⟩ := thenDropWorkers_ok hstop
      have hstopped := s.stopOthers_ok (w := w.withoutCoordinator) hd (fun _ hp => hp) hstop
      rw [hhost]
      exact hstopped

theorem coordinator_stopCoordinator {w v : World σ} {outcome : StopOutcome}
    (hstop : w.attempt s.stopCoordinator = (.ok outcome, v)) : v.tracking.coordinator = none := by
  have hplaces := (s.wanes_stopCoordinator w).places.1
  rw [hstop] at hplaces
  rcases hplaces with hnone | hsame
  · exact hnone
  · exact hsame

def ReportsNone (w : World σ) : Prop :=
  ∃ status, (w.attempt s.coordinatorStatus).1 = .ok status ∧ status.running = false

theorem reportsNone_iff {w : World σ} (hnone : w.tracking.coordinator = none) :
    s.ReportsNone w ↔ w.host.find (s.name .coordinator) = .ok [] := by
  obtain ⟨hcoordinator, -⟩ := World.tidied_of_none hnone
  have hothers : s.others w = w.host.listing (s.name .coordinator) := by
    rw [others, hcoordinator]
    exact List.filter_eq_self.2 fun _ _ => rfl
  rw [ReportsNone, attempt_coordinatorStatus, Host.find_eq]
  cases w.host.outsiders.failFind with
  | some e => exact ⟨fun ⟨_, h, _⟩ => (nomatch h), nofun⟩
  | none => simp [statusSeen, hcoordinator, hothers]

theorem stopCoordinator_again {w : World σ} (hnone : w.tracking.coordinator = none)
    (hfind : w.host.find (s.name .coordinator) = .ok []) :
    w.attempt s.stopCoordinator = (.ok .notRunning, w) := by
  have hsame : w.withoutCoordinator = w := by rw [World.withoutCoordinator, ← hnone]
  rw [attempt_stopCoordinator, hnone, Option.filter_none, hsame, World.attempt_bind,
    attempt_allCoordinators, hfind]
  rfl

theorem attempt_withWorkerId {w : World σ} (hread : w.host.outsiders.failArgv = none) (id : String)
    (pids : List Nat) :
    w.attempt (withWorkerId id pids) = (.ok (pids.filter (w.host.carries id)), w) := by
  induction pids with
  | nil => rfl
  | cons pid pids ih =>
    have hargv : w.attempt (Attempt.check
        ((w.host.commandLine pid).mapError SupervisorFault.notInspected)) =
          (.ok (w.host.argv? pid), w) := by
      rw [World.attempt_check, Host.commandLine_eq, hread]
      rfl
    rw [withWorkerId, World.attempt_bind_ok (World.attempt_get w), World.attempt_bind_ok hargv,
      World.attempt_bind_ok ih, List.filter_cons]
    rfl

theorem withWorkerId_ok {id : String} {pids found : List Nat} {w v : World σ}
    (h : w.attempt (withWorkerId id pids) = (.ok found, v)) :
    v = w ∧ found = pids.filter (w.host.carries id) := by
  cases hread : w.host.outsiders.failArgv with
  | none =>
    rw [attempt_withWorkerId hread] at h
    obtain ⟨hfound, rfl⟩ := Prod.mk.inj h
    exact ⟨rfl, (Except.ok.inj hfound).symm⟩
  | some e =>
    cases pids with
    | nil =>
      obtain ⟨hfound, rfl⟩ := Prod.mk.inj h
      exact ⟨rfl, (Except.ok.inj hfound).symm⟩
    | cons pid pids =>
      rw [withWorkerId, World.attempt_bind_ok (World.attempt_get w), World.attempt_bind,
        World.attempt_check, Host.commandLine_eq, hread] at h
      cases h

def othersOf (w : World σ) (id : String) : List Nat :=
  ((w.host.listing (s.name .worker)).filter (w.host.carries id)).filter fun pid =>
    !(w.tracking.workerHandles.map Handle.pid).contains pid

theorem otherWorkers_ok {id : String} {pids : List Nat} {w v : World σ}
    (h : w.attempt (s.otherWorkers id) = (.ok pids, v)) :
    v = w ∧ pids = s.othersOf w id := by
  obtain ⟨listed, w₁, hlist, hrest⟩ := World.attempt_bind_eq_ok_iff.1 h
  obtain ⟨-, rfl, rfl⟩ := s.listed_ok hlist
  obtain ⟨found, w₂, hfind, hget⟩ := World.attempt_bind_eq_ok_iff.1 hrest
  obtain ⟨rfl, rfl⟩ := withWorkerId_ok hfind
  rw [World.attempt_bind_ok (World.attempt_get w₂)] at hget
  obtain ⟨hanswer, rfl⟩ := Prod.mk.inj hget
  exact ⟨rfl, (Except.ok.inj hanswer).symm⟩

theorem attempt_otherWorkers {w : World σ} (hlist : w.host.outsiders.failFind = none)
    (hread : w.host.outsiders.failArgv = none) (id : String) :
    w.attempt (s.otherWorkers id) = (.ok (s.othersOf w id), w) := by
  have hlisted : w.attempt (s.listed .worker) = (.ok (w.host.listing (s.name .worker)), w) := by
    rw [attempt_listed, Host.find_eq, hlist]
    rfl
  rw [otherWorkers, World.attempt_bind_ok hlisted,
    World.attempt_bind_ok (attempt_withWorkerId hread id _),
    World.attempt_bind_ok (World.attempt_get w)]
  rfl

def workerTargets (w : World σ) (id : String) : List Nat :=
  match (w.tracking.worker? id).filter fun x => !w.tracking.hasExited x with
  | some x => [x.pid]
  | none => s.othersOf (w.withoutWorker id) id

theorem accepted_of_stopWorker {w v : World σ} {id : String} {outcome : StopOutcome}
    (h : w.attempt (s.stopWorker id) = (.ok outcome, v)) :
    checked (Identifier.check "worker id" id) = .ok () := by
  obtain ⟨u, w₁, hcheck, -⟩ := World.attempt_bind_eq_ok_iff.1 h
  exact congrArg Prod.fst hcheck

theorem host_stopWorker {w v : World σ} {id : String} {outcome : StopOutcome} (hw : w.Sound)
    (hd : w.host.Distinct) (h : w.attempt (s.stopWorker id) = (.ok outcome, v)) :
    v.host = w.host.without (w.host.ended (s.workerTargets w id)) := by
  rw [s.attempt_stopWorker (s.accepted_of_stopWorker h)] at h
  rw [workerTargets]
  cases hmanaged : (w.tracking.worker? id).filter fun x => !w.tracking.hasExited x with
  | some x =>
    rw [hmanaged] at h
    have hx := hw.workers id x (Option.filter_eq_some_iff.1 hmanaged).1
    have hsound : (w.withoutWorker id).Sound := hw.forgets (w.tracking.forgets_removeWorker id)
    have hstopped := s.stopManaged_ok hsound hd hx.1 h
    exact hstopped
  | none =>
    rw [hmanaged] at h
    obtain ⟨pids, w₁, hothers, hstop⟩ := World.attempt_bind_eq_ok_iff.1 h
    obtain ⟨rfl, rfl⟩ := s.otherWorkers_ok hothers
    by_cases hempty : (s.othersOf (w.withoutWorker id) id).isEmpty = true
    · rw [if_pos hempty] at hstop
      obtain ⟨-, rfl⟩ := Prod.mk.inj hstop
      dsimp only
      rw [List.isEmpty_iff.1 hempty]
      exact (Host.without_eq_self fun _ _ => rfl).symm
    · rw [if_neg hempty] at hstop
      have hlisted : ∀ p ∈ s.othersOf (w.withoutWorker id) id, p ∈ w.host.listing (s.name .worker) :=
        fun p hp => (List.mem_filter.1 (List.mem_filter.1 hp).1).1
      have hstopped := s.stopOthers_ok (w := w.withoutWorker id) hd hlisted hstop
      exact hstopped

/-- A process runs that was started as this worker, or that has a worker's name and its id. -/
def RunsWorker (w : World σ) (id : String) (pid : Nat) : Prop :=
  w.host.carries id pid = true ∧ (pid ∈ w.host.listing (s.name .worker) ∨
    w.host.isAlive pid = true ∧ ∃ x ∈ w.started, x.role = .worker ∧ x.pid = pid)

theorem runsWorker_without {w v : World σ} {gone : Nat → Bool}
    (hhost : v.host = w.host.without gone) (hstarted : v.started = w.started) (id : String)
    (pid : Nat) : s.RunsWorker v id pid ↔ s.RunsWorker w id pid ∧ gone pid = false := by
  rw [RunsWorker, RunsWorker, hhost, hstarted, Host.listing_without, Host.isAlive_without,
    Host.carries, Host.carries, List.mem_filter]
  cases hgone : gone pid with
  | true => simp
  | false =>
    rw [Host.argv?_without _ _ hgone]
    simp

theorem stopWorker_again {w : World σ} {id : String}
    (hid : checked (Identifier.check "worker id" id) = .ok ())
    (htracked : w.tracking.worker? id = none) (hlist : w.host.outsiders.failFind = none)
    (hread : w.host.outsiders.failArgv = none) (hnone : ∀ pid, ¬ s.RunsWorker w id pid) :
    w.attempt (s.stopWorker id) = (.ok .notRunning, w.withoutWorker id) := by
  have hothers : s.othersOf (w.withoutWorker id) id = [] := by
    refine List.eq_nil_iff_forall_not_mem.2 fun pid hpid => ?_
    obtain ⟨hlisted, hcarries⟩ := List.mem_filter.1 (List.mem_filter.1 hpid).1
    exact hnone pid ⟨hcarries, .inl hlisted⟩
  have hnobody := s.attempt_otherWorkers (w := w.withoutWorker id) hlist hread id
  rw [s.attempt_stopWorker hid, htracked, Option.filter_none, World.attempt_bind_ok hnobody,
    hothers]
  rfl

theorem worker?_stopWorker {w v : World σ} {id : String} {outcome : StopOutcome}
    (h : w.attempt (s.stopWorker id) = (.ok outcome, v)) : v.tracking.worker? id = none := by
  have hplaces := (s.wanes_stopWorker (w := w) (s.accepted_of_stopWorker h)).places.2
  rw [h] at hplaces
  cases hx : v.tracking.worker? id with
  | none => rfl
  | some x =>
    have hbefore := hplaces id x hx
    rw [World.withoutWorker, Tracking.removeWorker, Tracking.worker?, Registry.get?_erase,
      if_pos rfl] at hbefore
    cases hbefore

theorem find_stopCoordinator_iff {w v : World σ} {outcome : StopOutcome} (hw : w.Sound)
    (hd : w.host.Distinct) (hstop : w.attempt s.stopCoordinator = (.ok outcome, v)) :
    v.host.find (s.name .coordinator) = .ok [] ↔ w.host.outsiders.failFind = none ∧
      ∀ pid ∈ w.host.listing (s.name .coordinator),
        w.host.ended (s.coordinatorTargets w) pid = true := by
  have hhost := s.host_stopCoordinator hw hd hstop
  have hfail : v.host.outsiders.failFind = w.host.outsiders.failFind := by
    rw [hhost]
    rfl
  rw [Host.find_eq, hfail, hhost, Host.listing_without]
  cases w.host.outsiders.failFind with
  | some e => simp
  | none => simp [List.filter_eq_nil_iff]

theorem runsWorker_stopWorker_iff {w v : World σ} {id : String} {outcome : StopOutcome}
    (hw : w.Sound) (hd : w.host.Distinct) (hstop : w.attempt (s.stopWorker id) = (.ok outcome, v))
    (pid : Nat) :
    s.RunsWorker v id pid ↔
      s.RunsWorker w id pid ∧ w.host.ended (s.workerTargets w id) pid = false := by
  have hwanes : World.Wanes w _ := s.stopWorker_wanes id w
  rw [hstop] at hwanes
  have hstarted : v.started = w.started := (World.Wanes.started hwanes).1
  exact s.runsWorker_without (s.host_stopWorker hw hd hstop) hstarted id pid

/-- What a stop that succeeds has to have been up against for its word to be true. After a stop of
the coordinator, none runs just when the stop went for every process that was listed, and a signal
ended each. After a stop of a worker, none runs under its id just when the same goes for every
process that ran as that worker. Where the word is true, the same stop again finds nothing. -/
theorem stops_truthful_iff (names : NameSource) (coordinator : σ) (host : Host) (time : String)
    (events : List Event) :
    let start : World σ := .initial coordinator { host with children := [] } time
    let w := s.afterAll names start events
    (∀ c ∈ w.host.children, w.host.outsiders.has c.pid = false) →
    (∀ outcome v, w.attempt s.stopCoordinator = (.ok outcome, v) →
      (s.ReportsNone v ↔ w.host.outsiders.failFind = none ∧
        ∀ pid ∈ w.host.listing (s.name .coordinator),
          w.host.ended (s.coordinatorTargets w) pid = true) ∧
      (s.ReportsNone v → v.attempt s.stopCoordinator = (.ok .notRunning, v))) ∧
    ∀ id outcome v, w.attempt (s.stopWorker id) = (.ok outcome, v) →
      ((∀ pid, ¬ s.RunsWorker v id pid) ↔
        ∀ pid, s.RunsWorker w id pid → w.host.ended (s.workerTargets w id) pid = true) ∧
      ((∀ pid, ¬ s.RunsWorker v id pid) → w.host.outsiders.failFind = none →
        w.host.outsiders.failArgv = none →
          v.attempt (s.stopWorker id) = (.ok .notRunning, v.withoutWorker id)) := by
  intro start w hapart
  have hsound : w.Sound := s.sound_afterAll names (sound_initial coordinator _ time rfl) events
  have hd : w.host.Distinct := ⟨fun c hc => hsound.child?_eq hc, hapart⟩
  refine ⟨fun outcome v hstop => ?_, fun id outcome v hstop => ?_⟩
  · have hnone := s.coordinator_stopCoordinator hstop
    rw [s.reportsNone_iff hnone]
    exact ⟨s.find_stopCoordinator_iff hsound hd hstop, s.stopCoordinator_again hnone⟩
  · refine ⟨forall_congr' fun pid => ?_, fun hnone hlist hread => ?_⟩
    · rw [s.runsWorker_stopWorker_iff hsound hd hstop, not_and, Bool.not_eq_false]
    · have hhost := s.host_stopWorker hsound hd hstop
      have hid := s.accepted_of_stopWorker hstop
      refine s.stopWorker_again hid (s.worker?_stopWorker hstop) ?_ ?_ hnone
      · rw [hhost]
        exact hlist
      · rw [hhost]
        exact hread

/-- The stop of a managed coordinator leaves another one running, and a second stop finds it. -/
theorem stopCoordinator_leaves_other :
    let other : Outsiders := { named := [("proof-coordinator", [4242])] }
    let w := furnished.afterAll .blank (.initial () (.furnished {}) "")
      [.startCoordinator, .outside other]
    let stopped := w.attempt furnished.stopCoordinator
    let again := stopped.2.attempt furnished.stopCoordinator
    stopped.1 = .ok (.stopped [Host.firstPid] true false) ∧
      (stopped.2.attempt furnished.coordinatorStatus).1 =
        .ok ⟨true, false, some 4242, [4242], none, none⟩ ∧
      again.1 = .ok (.stopped [4242] false false) := by
  decide +kernel

/-- A managed coordinator by itself is stopped, and nothing is left for a second stop. -/
theorem stops_truthful_managed :
    let w := furnished.afterAll .blank (.initial () (.furnished {}) "") [.startCoordinator]
    let v := (w.attempt furnished.stopCoordinator).2
    furnished.ReportsNone v ∧ v.attempt furnished.stopCoordinator = (.ok .notRunning, v) := by
  intro w v
  have hapart : ∀ c ∈ w.host.children, w.host.outsiders.has c.pid = false := by decide +kernel
  have hstop : w.attempt furnished.stopCoordinator =
      (.ok (.stopped [Host.firstPid] true false), v) := by
    have hanswer : (w.attempt furnished.stopCoordinator).1 =
        .ok (.stopped [Host.firstPid] true false) := by decide +kernel
    rw [← hanswer]
  obtain ⟨hcoordinator, -⟩ := furnished.stops_truthful_iff .blank () (.furnished {}) ""
    [.startCoordinator] hapart
  obtain ⟨htruthful, hagain⟩ := hcoordinator _ v hstop
  have hnone : furnished.ReportsNone v := htruthful.2 (by decide +kernel)
  exact ⟨hnone, hagain hnone⟩

end Supervisor

end CoordinatorGateway
