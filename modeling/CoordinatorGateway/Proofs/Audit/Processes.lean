import CoordinatorGateway.Proofs.Audit.Notes

namespace CoordinatorGateway.Supervisor

open Attempt (surely)

variable {σ α : Type} (s : Supervisor)

def auditing (enabled : Bool) : Supervisor := { s with auditEnabled := enabled }

theorem ofSettings_auditing (settings : Settings) (audit : Bool) (files : FileSystem)
    (directory : Place) (around : Surroundings) :
    ofSettings { settings with auditEnabled := audit } files directory around =
      (ofSettings settings files directory around).auditing audit := by
  rw [auditing, ofSettings, ofSettings]

def startedEvent (p : StartedProcess) : AuditEvent where
  name := "process.start"
  decision := some .succeeded
  fields := [("role", .string p.role.label), ("pid", .nat p.pid), ("binary", .string p.program)] ++
    Json.optional "worker_id" (p.workerId.map .string)

def startFailedEvent (role : Role) (workerId : Option String) (fault : SupervisorFault) :
    AuditEvent where
  name := "process.start_failed"
  decision := some .failed
  reason := some fault.message
  fields := [("role", .string role.label)] ++ Json.optional "worker_id" (workerId.map .string)

def startEvent (role : Role) (workerId : Option String) :
    Except SupervisorFault StartedProcess → AuditEvent
  | .ok p => startedEvent p
  | .error fault => startFailedEvent role workerId fault

theorem told_start (role : Role) (workerId : Option String)
    (r : Except SupervisorFault StartedProcess) :
    Attempt.told (fun p => [startedEvent p])
      (fun fault => [startFailedEvent role workerId fault]) r = [startEvent role workerId r] := by
  cases r with
  | ok p => rfl
  | error fault => rfl

theorem spawn_ok {w : World σ} {role : Role} {id : Option String} {program : LocatedProgram}
    {args : List String} {capacity : Option Nat} {h : Handle}
    (hspawn : (w.attempt (s.spawn role id program args capacity)).1 = .ok h) :
    h.role = role ∧ h.id = id ∧ h.program = program.path := by
  rw [attempt_spawn] at hspawn
  cases hchild : w.host.newChild program.path args (s.startDirectory role program.path) with
  | error e =>
    rw [hchild] at hspawn
    cases hspawn
  | ok c =>
    rw [hchild] at hspawn
    obtain rfl := Except.ok.inj hspawn
    exact ⟨rfl, rfl, rfl⟩

theorem launch_tells (role : Role) (id : Option String) (args : List String)
    (capacity : Option Nat) (step : Handle → Tracking → Option Handle × Tracking)
    (fault : Handle → SupervisorFault) :
    let launch (s : Supervisor) : Attempt SupervisorFault σ StartedProcess := do
      let program ← s.locate role
      let h ← s.spawn role id program args capacity
      install h (step h) fault
      awaitStart h
      surely (s.recordStarted h)
      return ⟨role, id, h.pid, program.path, program.source, capacity⟩
    (launch (s.auditing true)).Tells (fun p => [startedEvent p]) (fun _ => [])
      (launch (s.auditing false)) := by
  apply Attempt.Tells.after (s.locate_apart role).silent
  intro program
  apply Attempt.Tells.after_ok (s.spawn_apart role id program args capacity).silent
  intro w h hspawn
  obtain ⟨rfl, rfl, hprogram⟩ := (s.auditing true).spawn_ok hspawn
  apply Attempt.Tells.after (install_apart h _ fault).silent
  intro u
  apply Attempt.Tells.after (awaitStart_apart h).silent
  intro v
  apply Attempt.Tells.record
  rw [startedEvent, ← hprogram]

theorem recordingFailure_tells {yes : α → List AuditEvent} (role : Role) (workerId : Option String)
    {a quiet : Attempt SupervisorFault σ α} (h : a.Tells yes (fun _ => []) quiet) :
    ((s.auditing true).recordingFailure role workerId a).Tells yes
      (fun fault => [startFailedEvent role workerId fault])
      ((s.auditing false).recordingFailure role workerId quiet) :=
  h.onError (startFailedEvent role workerId)

theorem launchCoordinator_tells :
    ((s.auditing true).launchCoordinator (σ := σ)).Tells (fun p => [startedEvent p]) (fun _ => [])
      (s.auditing false).launchCoordinator :=
  s.launch_tells .coordinator none s.processes.coordinatorArgs none
    (fun h t => t.installCoordinator h) fun existing => .alreadyRunning .coordinator existing.pid

theorem startCoordinator_tells :
    ((s.auditing true).startCoordinator (σ := σ)).Tells (fun p => [startedEvent p])
      (fun fault => [startFailedEvent .coordinator none fault])
      (s.auditing false).startCoordinator := by
  apply recordingFailure_tells
  apply Attempt.Tells.after s.requireNoCoordinator_apart.silent
  intro u
  exact s.launchCoordinator_tells

theorem launchWorker_tells (plan : WorkerPlan) :
    ((s.auditing true).launchWorker (σ := σ) plan).Tells (fun p => [startedEvent p]) (fun _ => [])
      ((s.auditing false).launchWorker plan) := by
  have hlaunch := s.launch_tells (σ := σ) .worker (some plan.workerId) (s.workerArguments plan)
    (some plan.capacity) (fun h t => t.installWorker plan.workerId h)
    fun existing => .workerRunning plan.workerId existing.pid
  refine .get (fun w => ?_) fun _ => rfl
  dsimp only
  split
  · apply Attempt.Tells.after (Attempt.Apart.surely (.isAlive _)).silent
    intro alive
    exact .ite (.throw rfl) hlaunch
  · exact hlaunch

theorem startWorker_tells (names : NameSource) (launch : WorkerLaunch) :
    ((s.auditing true).startWorker (σ := σ) names launch).Tells (fun p => [startedEvent p])
      (fun fault => [startFailedEvent .worker launch.workerId fault])
      ((s.auditing false).startWorker names launch) := by
  apply recordingFailure_tells
  apply Attempt.Tells.after (s.checkWorker_apart names launch).silent
  intro plan
  exact s.launchWorker_tells plan

def lookEvents : Except SupervisorFault Unit → List AuditEvent :=
  Attempt.told (fun _ => []) fun fault => [startFailedEvent .coordinator none fault]

theorem goOn_notes (looked : Except SupervisorFault Unit) :
    Act.Notes (σ := σ) (fun r xs => lookEvents looked ++ xs = [startEvent .coordinator none r])
      ((s.auditing true).goOn looked) ((s.auditing false).goOn looked) := by
  cases looked with
  | error fault => exact .pure rfl
  | ok u =>
    intro w
    apply (s.recordingFailure_tells .coordinator none s.launchCoordinator_tells w).mono
    intro xs hxs
    exact hxs.trans (told_start _ _ _)

theorem startCoordinatorTwice_notes :
    Act.Notes (σ := σ)
      (fun results xs => ∃ one other, results = [one, other] ∧
        xs.Perm [startEvent .coordinator none one, startEvent .coordinator none other])
      (s.auditing true).startCoordinatorTwice (s.auditing false).startCoordinatorTwice := by
  have hlook : Act.Notes (σ := σ) (fun looked xs => xs = lookEvents looked)
      ((s.auditing true).recordingFailure .coordinator none
        (s.auditing true).requireNoCoordinator).run
      ((s.auditing false).recordingFailure .coordinator none
        (s.auditing false).requireNoCoordinator).run :=
    s.recordingFailure_tells .coordinator none s.requireNoCoordinator_apart.silent
  apply Act.Notes.bind hlook
  intro first xs hxs
  apply Act.Notes.bind hlook
  intro second ys hys
  apply Act.Notes.bind (s.goOn_notes first)
  intro one zs hone
  apply Act.Notes.bind (s.goOn_notes second)
  intro other us hother
  refine .pure ⟨one, other, rfl, ?_⟩
  rw [← hxs] at hone
  rw [← hys] at hother
  have hsplit : [startEvent .coordinator none one, startEvent .coordinator none other] =
      xs ++ zs ++ (ys ++ us) := by rw [hone, hother]; rfl
  rw [hsplit, List.append_nil, List.append_assoc]
  exact (List.perm_append_comm_assoc ys zs us).append_left xs

def stopEvents (role : Role) (workerId : Option String) : StopOutcome → List AuditEvent
  | .notRunning => []
  | .stopped pids managed forced =>
    [{ name := "process.stop"
       decision := some .succeeded
       fields := [("role", .string role.label), ("pids", .array (pids.map .nat)),
         ("managed", .bool managed), ("forced", .bool forced)] ++
           Json.optional "worker_id" (workerId.map .string) }]

theorem stopManaged_tells (h : Handle) :
    ((s.auditing true).stopManaged (σ := σ) h).Tells (stopEvents h.role h.id) (fun _ => [])
      ((s.auditing false).stopManaged h) := by
  apply Attempt.Tells.after (send_apart h.pid .graceful).silent
  intro delivered
  refine .ite ?_ (.pure rfl)
  apply Attempt.Tells.after (Attempt.Apart.surely (endAfterGrace_apart h)).silent
  intro u
  exact .record rfl

theorem stopOthers_tells (role : Role) (workerId : Option String) (pids : List Nat) :
    ((s.auditing true).stopOthers (σ := σ) role workerId pids).Tells (stopEvents role workerId)
      (fun _ => []) ((s.auditing false).stopOthers role workerId pids) := by
  apply Attempt.Tells.after (signalAll_apart pids).silent
  intro signalled
  refine .ite (.pure rfl) ?_
  apply Attempt.Tells.after (s.listed_apart role).silent
  intro listed
  apply Attempt.Tells.after (killAll_apart _).silent
  intro u
  exact .record rfl

theorem thenDropWorkers_tells {yes : α → List AuditEvent} {a quiet : Attempt SupervisorFault σ α}
    (h : a.Tells yes (fun _ => []) quiet) :
    (thenDropWorkers a).Tells yes (fun _ => []) (thenDropWorkers quiet) := by
  intro w
  have hfirst := h w
  rw [attempt_thenDropWorkers, attempt_thenDropWorkers]
  generalize w.attempt a = first at hfirst ⊢
  obtain ⟨result, w'⟩ := first
  obtain ⟨hsame, xs, hxs, rfl⟩ := hfirst
  rw [hsame]
  cases result with
  | error e => exact ⟨rfl, [], hxs, rfl⟩
  | ok x => exact ⟨rfl, yes x, hxs, rfl⟩

/-- The events for a stop. A managed process is stopped under the role and the id of its handle. -/
def stopEventsOf (managed : Option Handle) (role : Role) (workerId : Option String) :
    Except SupervisorFault StopOutcome → List AuditEvent :=
  Attempt.told (managed.elim (stopEvents role workerId) fun x => stopEvents x.role x.id) fun _ => []

theorem stopCoordinator_notes (w : World σ) :
    World.Notes
      (fun r xs => xs = stopEventsOf
        (w.tracking.coordinator.filter fun x => !w.tracking.hasExited x) .coordinator none r)
      w (w.attempt (s.auditing true).stopCoordinator)
      (w.unaudited.attempt (s.auditing false).stopCoordinator) := by
  rw [attempt_stopCoordinator, attempt_stopCoordinator, w.tracking_unaudited]
  refine World.Notes.congr (v := w.withoutCoordinator) ?_ rfl
  cases w.tracking.coordinator.filter fun x => !w.tracking.hasExited x with
  | some x => exact thenDropWorkers_tells (s.stopManaged_tells x) w.withoutCoordinator
  | none =>
    have hothers : Attempt.Tells (σ := σ) (stopEvents .coordinator none) (fun _ => [])
        (do
          let pids ← (s.auditing true).otherCoordinators none
          if pids.isEmpty then return .notRunning
          thenDropWorkers ((s.auditing true).stopOthers .coordinator none pids))
        (do
          let pids ← (s.auditing false).otherCoordinators none
          if pids.isEmpty then return .notRunning
          thenDropWorkers ((s.auditing false).stopOthers .coordinator none pids)) := by
      apply Attempt.Tells.after (s.otherCoordinators_apart none).silent
      intro pids
      exact .ite (.pure rfl) (thenDropWorkers_tells (s.stopOthers_tells .coordinator none pids))
    exact hothers w.withoutCoordinator

theorem stopWorker_notes (id : String) (w : World σ) :
    World.Notes
      (fun r xs => xs = stopEventsOf
        ((w.tracking.worker? id).filter fun x => !w.tracking.hasExited x) .worker (some id) r)
      w (w.attempt ((s.auditing true).stopWorker id))
      (w.unaudited.attempt ((s.auditing false).stopWorker id)) := by
  cases hid : checked (Identifier.check "worker id" id) with
  | error e =>
    have hrefused (s : Supervisor) (w : World σ) :
        w.attempt (s.stopWorker id) = (.error e, w) := by
      rw [stopWorker, World.attempt_bind, World.attempt_check, hid]
    rw [hrefused, hrefused]
    exact ⟨rfl, [], (List.append_nil _).symm, rfl⟩
  | ok u =>
    rw [attempt_stopWorker _ hid, attempt_stopWorker _ hid, w.tracking_unaudited]
    refine World.Notes.congr (v := w.withoutWorker id) ?_ rfl
    cases (w.tracking.worker? id).filter fun x => !w.tracking.hasExited x with
    | some x => exact s.stopManaged_tells x (w.withoutWorker id)
    | none =>
      have hothers : Attempt.Tells (σ := σ) (stopEvents .worker (some id)) (fun _ => [])
          (do
            let pids ← (s.auditing true).otherWorkers id
            if pids.isEmpty then return .notRunning
            (s.auditing true).stopOthers .worker (some id) pids)
          (do
            let pids ← (s.auditing false).otherWorkers id
            if pids.isEmpty then return .notRunning
            (s.auditing false).stopOthers .worker (some id) pids) := by
        apply Attempt.Tells.after (s.otherWorkers_apart id).silent
        intro pids
        exact .ite (.pure rfl) (s.stopOthers_tells .worker (some id) pids)
      exact hothers (w.withoutWorker id)

/-- The events `xs` are just what there is to be recorded of what happens in the world `w`. -/
def Records (names : NameSource) (w : World σ) : Event → List AuditEvent → Prop
  | .startCoordinator, xs => xs = [startEvent .coordinator none (w.attempt s.startCoordinator).1]
  | .startCoordinatorTwice, xs =>
    ∃ one other, (w.run s.startCoordinatorTwice).1 = [one, other] ∧
      xs.Perm [startEvent .coordinator none one, startEvent .coordinator none other]
  | .startWorker launch, xs =>
    xs = [startEvent .worker launch.workerId (w.attempt (s.startWorker names launch)).1]
  | .stopCoordinator, xs =>
    xs = stopEventsOf (w.tracking.coordinator.filter fun x => !w.tracking.hasExited x) .coordinator
      none (w.attempt s.stopCoordinator).1
  | .stopWorker id, xs =>
    xs = stopEventsOf ((w.tracking.worker? id).filter fun x => !w.tracking.hasExited x) .worker
      (some id) (w.attempt (s.stopWorker id)).1
  | _, xs => xs = []

/-- All of it is recorded where the audit is on, and nothing else comes of it than where the audit
is off. -/
theorem after_notes (names : NameSource) (w : World σ) (e : Event) :
    World.Notes (fun _ xs => (s.auditing true).Records names w e xs) w
      ((), (s.auditing true).after names w e)
      ((), (s.auditing false).after names w.unaudited e) := by
  have hworld {β : Type} {leaves : β → List AuditEvent → Prop} {x y : β × World σ}
      (h : World.Notes leaves w x y) :
      World.Notes (fun _ xs => leaves x.1 xs) w ((), x.2) ((), y.2) :=
    ⟨congrArg (fun x => ((), x.2)) h.same, h.told⟩
  have hstart {role : Role} {workerId : Option String}
      {a quiet : Attempt SupervisorFault σ StartedProcess}
      (h : a.Tells (fun p => [startedEvent p])
        (fun fault => [startFailedEvent role workerId fault]) quiet) :
      World.Notes (fun r xs => xs = [startEvent role workerId r]) w (w.attempt a)
        (w.unaudited.attempt quiet) := by
    apply (h w).mono
    intro xs hxs
    exact hxs.trans (told_start role workerId _)
  -- With the audit off nothing is recorded, and the other events do not look at that switch.
  have hquiet (e : Event) :
      World.Notes (fun _ xs => xs = []) w ((), (s.auditing false).after names w e)
        ((), (s.auditing false).after names w.unaudited e) :=
    World.Apart.notes ((s.auditing false).after_apart names e) w
  cases e with
  | startCoordinator => exact hworld (hstart s.startCoordinator_tells)
  | startCoordinatorTwice => exact hworld (s.startCoordinatorTwice_notes w)
  | startWorker launch => exact hworld (hstart (s.startWorker_tells names launch))
  | stopCoordinator => exact hworld (s.stopCoordinator_notes w)
  | stopWorker id => exact hworld (s.stopWorker_notes id w)
  | coordinatorStatus => exact hquiet .coordinatorStatus
  | workerStatus => exact hquiet .workerStatus
  | workerStatusById id => exact hquiet (.workerStatusById id)
  | stopAllManaged => exact hquiet .stopAllManaged
  | exit pid e => exact hquiet (.exit pid e)
  | notice pid => exact hquiet (.notice pid)
  | outside o => exact hquiet (.outside o)
  | files fs => exact hquiet (.files fs)
  | time t => exact hquiet (.time t)

end CoordinatorGateway.Supervisor
