import CoordinatorGateway.Proofs.Launch.Stages
import CoordinatorGateway.Proofs.Supervisor.Runs

namespace CoordinatorGateway

variable {ε σ α β : Type} {audit : Bool}

/-- No call, and no audit event unless `audit` says that there may be some. -/
def Effect.IsLocal (audit : Bool) : Effect → Prop
  | .call _ => False
  | .audit _ => audit = true
  | .spawn _ | .signal _ _ => True

theorem Effect.IsLocal.call?_eq_none {e : Effect} (h : e.IsLocal audit) : e.call? = none := by
  cases e with
  | call c => exact absurd h not_false
  | _ => rfl

theorem Effect.IsLocal.not_isAudit {e : Effect} (h : e.IsLocal false) : e.isAudit = false := by
  cases e with
  | audit e => cases h
  | _ => rfl

namespace World

def facing (w : World σ) (s : σ) : World σ := { w with coordinator := s }

/-- The same world but for the coordinator and what has been done so far. -/
def elsewhere (w : World σ) (s : σ) (t : List Effect) : World σ :=
  { w with coordinator := s, trace := t }

theorem calls_note (w : World σ) (e : Effect) :
    (w.run (note e)).2.calls = w.calls ++ e.call?.toList := by
  change calls { w with trace := w.trace ++ [e] } = _
  rw [calls, List.filterMap_append]
  rfl

/-- The step depends neither on the coordinator nor on the trace. It leaves the one as it is, and
adds local effects to the other. -/
def Apart (audit : Bool) (step : World σ → α × World σ) : Prop :=
  ∀ w, ∃ effects : List Effect, (∀ e ∈ effects, e.IsLocal audit) ∧
    ∀ s t, step (w.elsewhere s t) = ((step w).1, (step w).2.elsewhere s (t ++ effects))

namespace Apart

variable {step : World σ → α × World σ}

theorem of_eq (h : ∀ w s t, step (elsewhere w s t) = ((step w).1, (step w).2.elsewhere s t)) :
    Apart audit step := by
  intro w
  refine ⟨[], fun _ he => absurd he List.not_mem_nil, fun s t => ?_⟩
  rw [List.append_nil]
  exact h w s t

theorem eq_elsewhere (h : Apart audit step) (w : World σ) :
    ∃ effects : List Effect, (∀ e ∈ effects, e.IsLocal audit) ∧
      (step w).2 = (step w).2.elsewhere w.coordinator (w.trace ++ effects) := by
  obtain ⟨effects, hlocal, hstep⟩ := h w
  exact ⟨effects, hlocal, congrArg Prod.snd (hstep w.coordinator w.trace)⟩

theorem coordinator (h : Apart audit step) (w : World σ) :
    (step w).2.coordinator = w.coordinator := by
  obtain ⟨effects, -, heq⟩ := h.eq_elsewhere w
  rw [heq]
  rfl

theorem calls (h : Apart audit step) (w : World σ) : (step w).2.calls = w.calls := by
  obtain ⟨effects, hlocal, heq⟩ := h.eq_elsewhere w
  have hnone : effects.filterMap Effect.call? = [] :=
    List.filterMap_eq_nil_iff.2 fun e he => (hlocal e he).call?_eq_none
  have htrace : (step w).2.trace = w.trace ++ effects := congrArg World.trace heq
  rw [World.calls, htrace, List.filterMap_append, hnone, List.append_nil]
  rfl

theorem blind (h : Apart audit step) (w : World σ) (s : σ) :
    step (w.facing s) = ((step w).1, (step w).2.facing s) := by
  obtain ⟨effects, -, hstep⟩ := h w
  have htrace : (step w).2.trace = w.trace ++ effects :=
    congrArg (fun x => x.2.trace) (hstep w.coordinator w.trace)
  rw [facing, facing, htrace]
  exact hstep s w.trace

end Apart

end World

def Act.Apart (audit : Bool) (act : Act σ α) : Prop := World.Apart audit fun w => w.run act

def Attempt.Apart (audit : Bool) (a : Attempt ε σ α) : Prop :=
  World.Apart audit fun w => w.attempt a

namespace Act.Apart

theorem pure (a : α) : Act.Apart audit (Pure.pure a : Act σ α) := .of_eq fun _ _ _ => rfl

theorem bind {act : Act σ α} {next : α → Act σ β} (h : act.Apart audit)
    (hnext : ∀ a, (next a).Apart audit) : Act.Apart audit (act >>= next) := by
  intro w
  obtain ⟨effects, hlocal, hstep⟩ := h w
  obtain ⟨effects', hlocal', hstep'⟩ := hnext (w.run act).1 (w.run act).2
  refine ⟨effects ++ effects', List.forall_mem_append.2 ⟨hlocal, hlocal'⟩, fun s t => ?_⟩
  have hfirst : (w.elsewhere s t).run act = (_, _) := hstep s t
  change (w.elsewhere s t).run (act >>= next) = _
  rw [World.run_bind, hfirst, ← List.append_assoc]
  exact hstep' s (t ++ effects)

theorem ite {p : Prop} [Decidable p] {act other : Act σ α} (h : act.Apart audit)
    (h' : other.Apart audit) : Act.Apart audit (if p then act else other) := by
  split
  · exact h
  · exact h'

theorem discard {act : Act σ α} (h : act.Apart audit) :
    Act.Apart audit (Functor.discard act) := bind h fun _ => pure _

theorem get {next : World σ → Act σ α} (h : ∀ w, (next w).Apart audit)
    (hblind : ∀ w s t, next (World.elsewhere w s t) = next w) :
    Act.Apart audit (MonadState.get >>= next) := by
  intro w
  obtain ⟨effects, hlocal, hstep⟩ := h w w
  refine ⟨effects, hlocal, fun s t => ?_⟩
  change (w.elsewhere s t).run (next (w.elsewhere s t)) = _
  rw [hblind]
  exact hstep s t

theorem forIn {xs : List β} {body : β → Act σ Unit} (h : ∀ x, (body x).Apart audit) :
    Act.Apart audit (do for x in xs do body x) := by
  refine bind ?_ fun _ => pure _
  induction xs with
  | nil => exact pure _
  | cons x xs ih =>
    rw [List.forIn_cons]
    apply bind (bind (h x) fun _ => pure _)
    intro step
    cases step with
    | done u => exact pure u
    | yield u => exact ih

theorem modifyGet {f : World σ → α × World σ} (h : World.Apart audit f) :
    Act.Apart audit (modifyGet f : Act σ α) := h

theorem note {e : Effect} (h : e.IsLocal audit) : Act.Apart audit (World.note e : Act σ Unit) :=
  fun _ => ⟨[e], List.forall_mem_singleton.2 h, fun _ _ => rfl⟩

theorem record (enabled : Bool) (e : AuditEvent) :
    Act.Apart enabled (World.record enabled e : Act σ Unit) := by
  cases enabled with
  | false => exact pure _
  | true => exact note rfl

theorem makeName (names : Nat → String) :
    Act.Apart audit (World.makeName names : Act σ String) := .of_eq fun _ _ _ => rfl

theorem track (step : Tracking → α × Tracking) : Act.Apart audit (World.track step : Act σ α) :=
  .of_eq fun _ _ _ => rfl

theorem reap : Act.Apart audit (World.reap : Act σ Unit) := .of_eq fun _ _ _ => rfl

theorem signal (pid : Nat) (s : Signal) :
    Act.Apart audit (World.signal pid s : Act σ (Except String Bool)) := by
  apply bind (note (e := .signal pid s) trivial)
  intro u
  apply bind (modifyGet (.of_eq fun _ _ _ => rfl))
  intro answer
  apply bind reap
  intro v
  exact pure _

theorem start (program : String) (args : List String) (directory : Option String) :
    Act.Apart audit (World.start program args directory : Act σ (Except String Child)) := by
  apply bind (modifyGet (.of_eq fun _ _ _ => rfl))
  intro result
  cases result with
  | error e => exact pure _
  | ok c =>
    apply bind (note (e := .spawn c) trivial)
    intro u
    exact pure _

theorem isAlive (h : Handle) : Act.Apart audit (World.isAlive h : Act σ Bool) :=
  get (fun _ => pure _) fun _ _ _ => rfl

end Act.Apart

namespace Attempt.Apart

theorem pure (a : α) : Attempt.Apart audit (Pure.pure a : Attempt ε σ α) :=
  .of_eq fun _ _ _ => rfl

theorem throw (e : ε) : Attempt.Apart audit (MonadExcept.throw e : Attempt ε σ α) :=
  .of_eq fun _ _ _ => rfl

theorem check (result : Except ε α) :
    Attempt.Apart audit (Attempt.check result : Attempt ε σ α) := .of_eq fun _ _ _ => rfl

theorem surely {act : Act σ α} (h : act.Apart audit) :
    Attempt.Apart audit (Attempt.surely act : Attempt ε σ α) :=
  Act.Apart.bind h fun _ => .pure _

theorem bind {a : Attempt ε σ α} {next : α → Attempt ε σ β} (h : a.Apart audit)
    (hnext : ∀ x, (next x).Apart audit) : Attempt.Apart audit (a >>= next) := by
  refine @Act.Apart.bind σ _ _ audit a.run (ExceptT.bindCont next) h fun result => ?_
  cases result with
  | error e => exact .pure _
  | ok x => exact hnext x

theorem ite {p : Prop} [Decidable p] {a other : Attempt ε σ α} (h : a.Apart audit)
    (h' : other.Apart audit) : Attempt.Apart audit (if p then a else other) := by
  split
  · exact h
  · exact h'

theorem discard {a : Attempt ε σ α} (h : a.Apart audit) :
    Attempt.Apart audit (Functor.discard a) :=
  bind h fun _ => .pure _

theorem get {next : World σ → Attempt ε σ α} (h : ∀ w, (next w).Apart audit)
    (hblind : ∀ w s t, next (World.elsewhere w s t) = next w) :
    Attempt.Apart audit (MonadState.get >>= next) := by
  intro w
  obtain ⟨effects, hlocal, hstep⟩ := h w w
  refine ⟨effects, hlocal, fun s t => ?_⟩
  change (w.elsewhere s t).attempt (next (w.elsewhere s t)) = _
  rw [hblind]
  exact hstep s t

theorem onError {a : Attempt ε σ α} (h : a.Apart audit) {step : ε → Act σ Unit}
    (hstep : ∀ e, (step e).Apart audit) : Attempt.Apart audit (a.onError step) := by
  refine @Act.Apart.bind σ _ _ audit a.run _ h fun result => ?_
  cases result with
  | error e => exact .bind (hstep e) fun _ => .pure _
  | ok x => exact .pure _

end Attempt.Apart

namespace Supervisor

open Attempt (surely)

variable (s : Supervisor)

theorem record_apart (e : AuditEvent) : Act.Apart s.auditEnabled (s.record e : Act σ Unit) :=
  .record s.auditEnabled e

theorem listed_apart (role : Role) :
    Attempt.Apart audit (s.listed role : Attempt SupervisorFault σ (List Nat)) :=
  .get (fun _ => .check _) fun _ _ _ => rfl

theorem otherCoordinators_apart (own : Option Nat) :
    Attempt.Apart audit (s.otherCoordinators own : Attempt SupervisorFault σ (List Nat)) := by
  apply Attempt.Apart.bind (s.listed_apart .coordinator)
  intro pids
  exact .pure _

theorem withWorkerId_apart (id : String) (pids : List Nat) :
    Attempt.Apart audit (withWorkerId id pids : Attempt SupervisorFault σ (List Nat)) := by
  induction pids with
  | nil => exact .pure _
  | cons pid pids ih =>
    refine Attempt.Apart.get (fun w => ?_) fun _ _ _ => rfl
    apply Attempt.Apart.bind (.check _)
    intro argv
    apply Attempt.Apart.bind ih
    intro rest
    exact .pure _

theorem otherWorkers_apart (id : String) :
    Attempt.Apart audit (s.otherWorkers id : Attempt SupervisorFault σ (List Nat)) := by
  apply Attempt.Apart.bind (s.listed_apart .worker)
  intro pids
  apply Attempt.Apart.bind (withWorkerId_apart id pids)
  intro ofWorker
  exact .get (fun _ => .pure _) fun _ _ _ => rfl

theorem dropWorkers_apart : Act.Apart audit (dropWorkers : Act σ Unit) := .track _

theorem liveCoordinator_apart : Act.Apart audit (liveCoordinator : Act σ (Option Handle)) := by
  refine Act.Apart.get (fun w => ?_) fun _ _ _ => rfl
  split
  · exact .pure _
  · apply Act.Apart.bind (.isAlive _)
    intro alive
    apply Act.Apart.ite
    · exact .pure _
    · apply Act.Apart.bind (.track _)
      intro u
      exact .pure _

theorem coordinatorStatus_apart :
    Attempt.Apart audit (s.coordinatorStatus : Attempt SupervisorFault σ CoordinatorStatus) := by
  apply Attempt.Apart.bind (.surely liveCoordinator_apart)
  intro tracked
  apply Attempt.Apart.bind (s.otherCoordinators_apart _)
  intro others
  apply Attempt.Apart.ite
  · exact .pure _
  · apply Attempt.Apart.bind (.surely dropWorkers_apart)
    intro u
    exact .pure _

theorem statusOf_apart (h : Handle) : Act.Apart audit (statusOf h : Act σ WorkerStatus) := by
  apply Act.Apart.bind (.isAlive h)
  intro running
  exact .get (fun _ => .pure _) fun _ _ _ => rfl

theorem mapM_statusOf_apart (hs : List Handle) :
    Act.Apart audit (hs.mapM statusOf : Act σ (List WorkerStatus)) := by
  induction hs with
  | nil => exact .pure _
  | cons h hs ih =>
    rw [List.mapM_cons]
    apply Act.Apart.bind (statusOf_apart h)
    intro status
    apply Act.Apart.bind ih
    intro statuses
    exact .pure _

theorem workerStatus_apart :
    Attempt.Apart audit (s.workerStatus : Attempt SupervisorFault σ (List WorkerStatus)) := by
  apply Attempt.Apart.bind s.coordinatorStatus_apart
  intro status
  apply Attempt.Apart.ite
  · exact .get (fun _ => .surely (mapM_statusOf_apart _)) fun _ _ _ => rfl
  · exact .pure _

theorem workerStatusById_apart (id : String) :
    Attempt.Apart audit (s.workerStatusById id : Attempt SupervisorFault σ WorkerStatus) := by
  apply Attempt.Apart.bind (.check _)
  intro u
  apply Attempt.Apart.bind s.workerStatus_apart
  intro statuses
  split
  · exact .pure _
  · exact .throw _

theorem endAfterGrace_apart (h : Handle) : Act.Apart audit (endAfterGrace h : Act σ Unit) := by
  refine Act.Apart.get (fun w => ?_) fun _ _ _ => rfl
  apply Act.Apart.ite
  · exact .pure _
  · exact .discard (.signal h.pid .forceful)

theorem send_apart (pid : Nat) (signal : Signal) :
    Attempt.Apart audit (send pid signal : Attempt SupervisorFault σ Bool) := by
  apply Attempt.Apart.bind (.surely (.signal pid signal))
  intro answer
  exact .check _

theorem stopManaged_apart (h : Handle) :
    Attempt.Apart s.auditEnabled (s.stopManaged h : Attempt SupervisorFault σ StopOutcome) := by
  apply Attempt.Apart.bind (send_apart h.pid .graceful)
  intro delivered
  apply Attempt.Apart.ite
  · apply Attempt.Apart.bind (.surely (endAfterGrace_apart h))
    intro u
    apply Attempt.Apart.bind (.surely (s.record_apart _))
    intro v
    exact .pure _
  · exact .pure _

theorem signalAll_apart (pids : List Nat) :
    Attempt.Apart audit (signalAll pids : Attempt SupervisorFault σ (List Nat)) := by
  induction pids with
  | nil => exact .pure _
  | cons pid pids ih =>
    apply Attempt.Apart.bind (send_apart pid .graceful)
    intro delivered
    apply Attempt.Apart.bind ih
    intro rest
    exact .pure _

theorem killAll_apart (pids : List Nat) :
    Attempt.Apart audit (killAll pids : Attempt SupervisorFault σ Unit) := by
  induction pids with
  | nil => exact .pure _
  | cons pid pids ih =>
    apply Attempt.Apart.bind (.discard (send_apart pid .forceful))
    intro u
    exact ih

theorem stopOthers_apart (role : Role) (workerId : Option String) (pids : List Nat) :
    Attempt.Apart s.auditEnabled
      (s.stopOthers role workerId pids : Attempt SupervisorFault σ StopOutcome) := by
  apply Attempt.Apart.bind (signalAll_apart pids)
  intro signalled
  apply Attempt.Apart.ite
  · exact .pure _
  · apply Attempt.Apart.bind (s.listed_apart role)
    intro listed
    apply Attempt.Apart.bind (killAll_apart _)
    intro u
    apply Attempt.Apart.bind (.surely (s.record_apart _))
    intro v
    exact .pure _

theorem thenDropWorkers_apart {a : Attempt SupervisorFault σ α} (h : a.Apart audit) :
    (thenDropWorkers a).Apart audit := by
  apply Attempt.Apart.bind h
  intro outcome
  apply Attempt.Apart.bind (.surely dropWorkers_apart)
  intro u
  exact .pure _

theorem stopCoordinator_apart :
    Attempt.Apart s.auditEnabled (s.stopCoordinator : Attempt SupervisorFault σ StopOutcome) := by
  apply Attempt.Apart.bind (.surely (.track _))
  intro tracked
  refine Attempt.Apart.get (fun w => ?_) fun _ _ _ => rfl
  dsimp only
  split
  · exact thenDropWorkers_apart (s.stopManaged_apart _)
  · apply Attempt.Apart.bind (s.otherCoordinators_apart none)
    intro pids
    apply Attempt.Apart.ite
    · exact .pure _
    · exact thenDropWorkers_apart (s.stopOthers_apart _ _ _)

theorem stopWorker_apart (id : String) :
    Attempt.Apart s.auditEnabled (s.stopWorker id : Attempt SupervisorFault σ StopOutcome) := by
  apply Attempt.Apart.bind (.check _)
  intro u
  apply Attempt.Apart.bind (.surely (.track _))
  intro tracked
  refine Attempt.Apart.get (fun w => ?_) fun _ _ _ => rfl
  dsimp only
  split
  · exact s.stopManaged_apart _
  · apply Attempt.Apart.bind (s.otherWorkers_apart id)
    intro pids
    apply Attempt.Apart.ite
    · exact .pure _
    · exact s.stopOthers_apart _ _ _

theorem endManaged_apart (h : Handle) : Act.Apart audit (endManaged h : Act σ Unit) := by
  apply Act.Apart.bind (.discard (.signal h.pid .graceful))
  intro u
  exact endAfterGrace_apart h

theorem stopAllManaged_apart : Act.Apart audit (stopAllManaged : Act σ Unit) := by
  apply Act.Apart.bind (.track _)
  intro workers
  apply Act.Apart.bind (.track _)
  intro coordinator
  refine Act.Apart.get (fun w => ?_) fun _ _ _ => rfl
  exact .forIn fun h => endManaged_apart h

theorem locate_apart (role : Role) :
    Attempt.Apart audit (s.locate role : Attempt SupervisorFault σ LocatedProgram) :=
  .get (fun _ => .check _) fun _ _ _ => rfl

theorem spawn_apart (role : Role) (id : Option String) (program : LocatedProgram)
    (args : List String) (capacity : Option Nat) :
    Attempt.Apart audit
      (s.spawn role id program args capacity : Attempt SupervisorFault σ Handle) := by
  apply Attempt.Apart.bind (.surely (.start _ _ _))
  intro result
  cases result with
  | error e => exact .throw _
  | ok child =>
    apply Attempt.Apart.bind (.surely (.track _))
    intro generation
    refine Attempt.Apart.get (fun w => ?_) fun _ _ _ => rfl
    apply Attempt.Apart.bind (a := modify _)
    · exact .of_eq fun _ _ _ => rfl
    · intro u
      exact .pure _

theorem install_apart (h : Handle) (step : Tracking → Option Handle × Tracking)
    (fault : Handle → SupervisorFault) :
    Attempt.Apart audit (install h step fault : Attempt SupervisorFault σ Unit) := by
  apply Attempt.Apart.bind (.surely (.track _))
  intro taken
  cases taken with
  | none => exact .pure _
  | some existing =>
    apply Attempt.Apart.bind (.discard (.surely (.signal h.pid .forceful)))
    intro u
    exact .throw _

theorem awaitStart_apart (h : Handle) :
    Attempt.Apart audit (awaitStart h : Attempt SupervisorFault σ Unit) := by
  apply Attempt.Apart.bind (.surely .reap)
  intro u
  refine Attempt.Apart.get (fun w => ?_) fun _ _ _ => rfl
  split
  · apply Attempt.Apart.bind (.surely (.track _))
    intro v
    exact .throw _
  · exact .pure _

theorem recordingFailure_apart (role : Role) (workerId : Option String)
    {a : Attempt SupervisorFault σ α} (h : a.Apart s.auditEnabled) :
    (s.recordingFailure role workerId a).Apart s.auditEnabled :=
  .onError h fun _ => s.record_apart _

theorem requireNoCoordinator_apart :
    Attempt.Apart audit (s.requireNoCoordinator : Attempt SupervisorFault σ Unit) := by
  have hothers : Attempt.Apart audit (do
      let others ← s.otherCoordinators none
      unless others.isEmpty do throw (.runningOutside .coordinator others) :
        Attempt SupervisorFault σ Unit) := by
    apply Attempt.Apart.bind (s.otherCoordinators_apart none)
    intro others
    apply Attempt.Apart.ite
    · exact .pure _
    · exact .throw _
  refine Attempt.Apart.get (fun w => ?_) fun _ _ _ => rfl
  split
  · apply Attempt.Apart.bind (.surely (.isAlive _))
    intro alive
    apply Attempt.Apart.ite
    · exact .throw _
    · apply Attempt.Apart.bind (.surely (.track _))
      intro u
      exact hothers
  · exact hothers

theorem launchCoordinator_apart :
    Attempt.Apart s.auditEnabled
      (s.launchCoordinator : Attempt SupervisorFault σ StartedProcess) := by
  apply Attempt.Apart.bind (s.locate_apart .coordinator)
  intro program
  apply Attempt.Apart.bind (s.spawn_apart _ _ _ _ _)
  intro h
  apply Attempt.Apart.bind (install_apart h _ _)
  intro u
  apply Attempt.Apart.bind (awaitStart_apart h)
  intro v
  apply Attempt.Apart.bind (.surely (s.record_apart _))
  intro x
  exact .pure _

theorem startCoordinator_apart :
    Attempt.Apart s.auditEnabled
      (s.startCoordinator : Attempt SupervisorFault σ StartedProcess) := by
  apply s.recordingFailure_apart
  apply Attempt.Apart.bind s.requireNoCoordinator_apart
  intro u
  exact s.launchCoordinator_apart

theorem startCoordinatorTwice_apart :
    Act.Apart s.auditEnabled (s.startCoordinatorTwice :
      Act σ (List (Except SupervisorFault StartedProcess))) := by
  have hlook : Act.Apart s.auditEnabled
      (s.recordingFailure .coordinator none s.requireNoCoordinator :
        Attempt SupervisorFault σ _).run :=
    s.recordingFailure_apart .coordinator none s.requireNoCoordinator_apart
  apply Act.Apart.bind hlook
  intro first
  apply Act.Apart.bind hlook
  intro second
  apply Act.Apart.bind
  · cases first with
    | ok u => exact s.recordingFailure_apart .coordinator none s.launchCoordinator_apart
    | error e => exact .pure _
  intro one
  apply Act.Apart.bind
  · cases second with
    | ok u => exact s.recordingFailure_apart .coordinator none s.launchCoordinator_apart
    | error e => exact .pure _
  intro other
  exact .pure _

theorem chooseWorkerId_apart (names : NameSource) (launch : WorkerLaunch) :
    Attempt.Apart audit (chooseWorkerId names launch : Attempt SupervisorFault σ String) := by
  rw [chooseWorkerId]
  split
  · apply Attempt.Apart.bind (.check _)
    intro u
    exact .pure _
  · exact .surely (.makeName _)

theorem checkWorker_apart (names : NameSource) (launch : WorkerLaunch) :
    Attempt.Apart audit (s.checkWorker names launch : Attempt SupervisorFault σ WorkerPlan) := by
  apply Attempt.Apart.bind (.check _)
  intro capacity
  apply Attempt.Apart.bind (chooseWorkerId_apart names launch)
  intro workerId
  refine Attempt.Apart.get (fun w => ?_) fun _ _ _ => rfl
  apply Attempt.Apart.ite
  · apply Attempt.Apart.ite
    · exact .pure _
    · exact .throw _
  · exact .throw _

theorem launchWorker_apart (plan : WorkerPlan) :
    Attempt.Apart s.auditEnabled
      (s.launchWorker plan : Attempt SupervisorFault σ StartedProcess) := by
  have hlaunch : Attempt.Apart s.auditEnabled (do
      let program ← s.locate .worker
      let h ← s.spawn .worker (some plan.workerId) program (s.workerArguments plan)
        (some plan.capacity)
      install h (fun t => t.installWorker plan.workerId h) fun existing =>
        .workerRunning plan.workerId existing.pid
      awaitStart h
      surely (s.recordStarted h)
      return ⟨.worker, some plan.workerId, h.pid, program.path, program.source,
        some plan.capacity⟩ : Attempt SupervisorFault σ StartedProcess) := by
    apply Attempt.Apart.bind (s.locate_apart .worker)
    intro program
    apply Attempt.Apart.bind (s.spawn_apart _ _ _ _ _)
    intro h
    apply Attempt.Apart.bind (install_apart h _ _)
    intro u
    apply Attempt.Apart.bind (awaitStart_apart h)
    intro v
    apply Attempt.Apart.bind (.surely (s.record_apart _))
    intro x
    exact .pure _
  refine Attempt.Apart.get (fun w => ?_) fun _ _ _ => rfl
  split
  · apply Attempt.Apart.bind (.surely (.isAlive _))
    intro alive
    apply Attempt.Apart.ite
    · exact .throw _
    · exact hlaunch
  · exact hlaunch

theorem startWorker_apart (names : NameSource) (launch : WorkerLaunch) :
    Attempt.Apart s.auditEnabled
      (s.startWorker names launch : Attempt SupervisorFault σ StartedProcess) := by
  apply s.recordingFailure_apart
  apply Attempt.Apart.bind (s.checkWorker_apart names launch)
  intro plan
  exact s.launchWorker_apart plan

/-- What happens to the processes has nothing to do with what the coordinator answers. -/
theorem after_apart (names : NameSource) (e : Event) :
    World.Apart s.auditEnabled fun w : World σ => ((), s.after names w e) := by
  have hworld {β : Type} {step : World σ → β × World σ} (h : World.Apart s.auditEnabled step) :
      World.Apart s.auditEnabled fun w => ((), (step w).2) := by
    intro w
    obtain ⟨effects, hlocal, hstep⟩ := h w
    refine ⟨effects, hlocal, fun s t => ?_⟩
    have hafter : (step (w.elsewhere s t)).2 = (step w).2.elsewhere s (t ++ effects) :=
      congrArg Prod.snd (hstep s t)
    exact Prod.ext rfl hafter
  cases e with
  | startCoordinator => exact hworld s.startCoordinator_apart
  | startCoordinatorTwice => exact hworld s.startCoordinatorTwice_apart
  | startWorker launch => exact hworld (s.startWorker_apart names launch)
  | stopCoordinator => exact hworld s.stopCoordinator_apart
  | stopWorker id => exact hworld (s.stopWorker_apart id)
  | coordinatorStatus => exact hworld s.coordinatorStatus_apart
  | workerStatus => exact hworld s.workerStatus_apart
  | workerStatusById id => exact hworld (s.workerStatusById_apart id)
  | stopAllManaged => exact hworld stopAllManaged_apart
  | exit pid e => exact .of_eq fun _ _ _ => rfl
  | notice pid => exact .of_eq fun _ _ _ => rfl
  | outside o => exact .of_eq fun _ _ _ => rfl
  | files fs => exact .of_eq fun _ _ _ => rfl
  | time t => exact .of_eq fun _ _ _ => rfl

end Supervisor

end CoordinatorGateway
