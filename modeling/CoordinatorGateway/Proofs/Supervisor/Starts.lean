import CoordinatorGateway.Proofs.Supervisor.Operations

namespace CoordinatorGateway

variable {σ α : Type}

namespace World

theorem Wanes.trace {w w' : World σ} (h : w.Wanes w') : w.trace <+: w'.trace := by
  induction h with
  | refl => exact List.prefix_refl _
  | tail _ hstep ih =>
    cases hstep with
    | note => exact ih.trans (List.prefix_append _ _)
    | signal => exact ih.trans (List.prefix_append _ _)
    | _ => exact ih

def spawned (w : World σ) (c : Child) (x : Handle) : World σ :=
  { w with
    host := { w.host with children := w.host.children ++ [c] }
    tracking := { w.tracking with generation := w.tracking.generation + 1 }
    started := w.started ++ [x]
    trace := w.trace ++ [.spawn c] }

/-- The handle goes to its place, and the start comes to its end. -/
structure Settles (step : Tracking → Option Handle × Tracking) (x : Handle) (w w' : World σ) :
    Prop where
  wanes : World.Wanes { w with tracking := (step w.tracking).2 } w'
  taken : ∀ y, (step w.tracking).1 = some y → Effect.signal x.pid .forceful ∈ w'.trace

theorem mem_started_spawned (w : World σ) (c : Child) (x : Handle) : x ∈ (w.spawned c x).started :=
  List.mem_append_right _ (List.mem_singleton.2 rfl)

theorem Settles.trans {step : Tracking → Option Handle × Tracking} {x : Handle}
    {w w' w'' : World σ} (h : Settles step x w w') (hwanes : w'.Wanes w'') :
    Settles step x w w'' :=
  ⟨h.wanes.trans hwanes, fun y hy => hwanes.trace.subset (h.taken y hy)⟩

end World

namespace Supervisor

variable (s : Supervisor)

theorem attempt_locate (w : World σ) (role : Role) :
    w.attempt (s.locate role) =
      (((s.locator role).locate w.host.files w.host.directory role (s.name role)).mapError
        .notLocated, w) := rfl

def handleOf (w : World σ) (role : Role) (id : Option String) (program : LocatedProgram)
    (c : Child) (capacity : Option Nat) : Handle :=
  ⟨role, id, c.pid, program.path, w.time, capacity, w.tracking.generation + 1⟩

theorem attempt_spawn (w : World σ) (role : Role) (id : Option String) (program : LocatedProgram)
    (args : List String) (capacity : Option Nat) :
    w.attempt (s.spawn role id program args capacity) =
      match w.host.newChild program.path args (s.startDirectory role program.path) with
      | .error e => (.error (.notStarted role program.path e), w)
      | .ok c =>
        let x := handleOf w role id program c capacity
        (.ok x, w.spawned c x) := by
  rw [spawn, World.attempt_bind, World.attempt_surely, World.start, World.run_bind,
    World.run_modifyGet, Host.start]
  cases w.host.newChild program.path args (s.startDirectory role program.path) with
  | error e => rfl
  | ok c => rfl

theorem attempt_install (w : World σ) (x : Handle) (step : Tracking → Option Handle × Tracking)
    (fault : Handle → SupervisorFault) :
    w.attempt (install x step fault) =
      let placed := { w with tracking := (step w.tracking).2 }
      match (step w.tracking).1 with
      | some y => (.error (fault y), (placed.run (World.signal x.pid .forceful)).2)
      | none => (.ok (), placed) := by
  rw [install, World.attempt_bind, World.attempt_surely, World.run_track]
  cases (step w.tracking).1 with
  | some y => rfl
  | none => rfl

theorem attempt_awaitStart (w : World σ) (x : Handle) :
    w.attempt (awaitStart x) =
      let reaped := (w.run World.reap).2
      match reaped.tracking.exit? x with
      | some e =>
        (.error (.exitedAtOnce x.role e.code),
          { reaped with tracking := reaped.tracking.clear x })
      | none => (.ok (), reaped) := by
  rw [awaitStart, World.attempt_bind, World.attempt_surely]
  dsimp only
  generalize (w.run World.reap).2 = reaped
  rw [World.attempt_bind_ok (World.attempt_get reaped)]
  cases reaped.tracking.exit? x with
  | some e => rfl
  | none => rfl

theorem awaitStart_wanes (x : Handle) :
    Attempt.Wanes (awaitStart x : Attempt SupervisorFault σ Unit) := by
  intro w
  have hreap := Act.Wanes.reap w
  rw [attempt_awaitStart]
  dsimp only
  cases hexit : (w.run World.reap).2.tracking.exit? x with
  | some e =>
    refine hreap.tail (.clear ?_)
    rw [Tracking.hasExited, hexit]
    rfl
  | none => exact hreap

theorem attempt_settle (w : World σ) (x : Handle) (step : Tracking → Option Handle × Tracking)
    (fault : Handle → SupervisorFault) (p : StartedProcess) :
    World.Settles step x w (w.attempt (do
      install x step fault
      awaitStart x
      Attempt.surely (s.recordStarted x)
      return p)).2 := by
  have hrest : Attempt.Wanes (do
      awaitStart x
      Attempt.surely (s.recordStarted x)
      return p : Attempt SupervisorFault σ StartedProcess) := by
    apply Attempt.Within.bind (awaitStart_wanes x)
    intro u
    apply Attempt.Within.bind (.surely (s.record_wanes _))
    intro v
    exact .pure _
  rw [World.attempt_bind, attempt_install]
  dsimp only
  cases hplace : (step w.tracking).1 with
  | some y =>
    refine ⟨Act.Wanes.signal x.pid .forceful _, fun _ _ => ?_⟩
    exact List.mem_append_right _ (List.mem_singleton.2 rfl)
  | none =>
    refine ⟨hrest _, fun y hy => ?_⟩
    rw [hplace] at hy
    cases hy

/-- Either nothing is started, or there is a new child whose handle settles. -/
theorem launch_cases (w : World σ) (role : Role) (id : Option String) (args : List String)
    (capacity : Option Nat) (step : Handle → Tracking → Option Handle × Tracking)
    (fault : Handle → SupervisorFault) (answer : Handle → LocatedProgram → StartedProcess) :
    let after := (w.attempt (do
      let program ← s.locate role
      let x ← s.spawn role id program args capacity
      install x (step x) fault
      awaitStart x
      Attempt.surely (s.recordStarted x)
      return answer x program)).2
    after = w ∨ ∃ program c,
      w.host.newChild program.path args (s.startDirectory role program.path) = .ok c ∧
        let x := handleOf w role id program c capacity
        World.Settles (step x) x (w.spawned c x) after := by
  dsimp only
  rw [World.attempt_bind, attempt_locate]
  cases (s.locator role).locate w.host.files w.host.directory role (s.name role) with
  | error m => exact .inl rfl
  | ok program =>
    rw [Except.mapError_ok]
    dsimp only
    rw [World.attempt_bind, attempt_spawn]
    cases hchild : w.host.newChild program.path args (s.startDirectory role program.path) with
    | error e => exact .inl rfl
    | ok c => exact .inr ⟨program, c, hchild, s.attempt_settle _ _ _ _ _⟩

theorem attempt_requireNoCoordinator (w : World σ) :
    w.attempt s.requireNoCoordinator =
      match w.coordinator? with
      | some x => (.error (.alreadyRunning .coordinator x.pid), w)
      | none =>
        (match w.host.find (s.name .coordinator) with
          | .error e => .error (.notInspected e)
          | .ok [] => .ok ()
          | .ok pids => .error (.runningOutside .coordinator pids),
          w.tidied) := by
  have hothers (v : World σ) : v.attempt (do
      let others ← s.otherCoordinators none
      unless others.isEmpty do throw (.runningOutside .coordinator others)) =
      (match v.host.find (s.name .coordinator) with
        | .error e => .error (.notInspected e)
        | .ok [] => .ok ()
        | .ok pids => .error (.runningOutside .coordinator pids),
        v) := by
    rw [World.attempt_bind, attempt_allCoordinators]
    rcases v.host.find (s.name .coordinator) with e | _ | ⟨pid, pids⟩
    · rfl
    · rfl
    · rfl
  rw [requireNoCoordinator, World.attempt_bind_ok (World.attempt_get w)]
  cases hx : w.tracking.coordinator with
  | none =>
    obtain ⟨hcoordinator, htidied⟩ := World.tidied_of_none hx
    rw [hcoordinator, htidied]
    exact hothers w
  | some x =>
    dsimp only
    rw [World.attempt_bind, World.attempt_surely]
    cases halive : (w.run (World.isAlive x)).1 with
    | false =>
      obtain ⟨hcoordinator, htidied⟩ := World.tidied_of_dead hx halive
      rw [hcoordinator, htidied]
      exact hothers _
    | true =>
      obtain ⟨hcoordinator, htidied⟩ := World.tidied_of_alive hx halive
      rw [hcoordinator]
      rfl

def goOn (looked : Except SupervisorFault Unit) : Act σ (Except SupervisorFault StartedProcess) :=
  match looked with
  | .ok () => (s.recordingFailure .coordinator none s.launchCoordinator).run
  | .error e => return .error e

theorem launchCoordinator_cases (w : World σ) :
    let after := (w.attempt s.launchCoordinator).2
    after = w ∨ ∃ program c,
      w.host.newChild program.path s.processes.coordinatorArgs
          (s.startDirectory .coordinator program.path) = .ok c ∧
        let x := handleOf w .coordinator none program c none
        World.Settles (fun t => t.installCoordinator x) x (w.spawned c x) after :=
  s.launch_cases w _ _ _ _ _ _ _

theorem reaches_installCoordinator {w : World σ} {program : LocatedProgram} {args : List String}
    {directory : Option String} {c : Child}
    (hchild : w.host.newChild program.path args directory = .ok c) :
    let x := handleOf w .coordinator none program c none
    w.Reaches { w.spawned c x with
      tracking := ((w.spawned c x).tracking.installCoordinator x).2 } := by
  intro x
  have hspawn : World.Move w (w.spawned c x) := .spawn hchild rfl rfl
  exact .head hspawn (.single (.holdCoordinator (World.mem_started_spawned w c x) rfl))

theorem launchCoordinator_moves :
    Attempt.Moves (s.launchCoordinator : Attempt SupervisorFault σ StartedProcess) := by
  intro w
  rcases s.launchCoordinator_cases w with hsame | ⟨program, c, hchild, hsettles⟩
  · rw [hsame]
  · exact (reaches_installCoordinator hchild).trans hsettles.wanes.reaches

theorem wanes_recordingFailure (w : World σ) (role : Role) (workerId : Option String)
    (a : Attempt SupervisorFault σ α) :
    World.Wanes (w.attempt a).2 (w.attempt (s.recordingFailure role workerId a)).2 := by
  rw [recordingFailure, World.attempt_onError]
  rcases w.attempt a with ⟨e | x, w'⟩
  · exact s.record_wanes _ w'
  · exact .refl

theorem recordingFailure_within {R : World σ → World σ → Prop} [IsPreorder (World σ) R]
    (hwanes : ∀ {w w' : World σ}, w.Wanes w' → R w w') {a : Attempt SupervisorFault σ α}
    (h : a.Within R) (role : Role) (workerId : Option String) :
    (s.recordingFailure role workerId a).Within R :=
  fun w => trans_of R (h w) (hwanes (s.wanes_recordingFailure w role workerId a))

section

variable {R : World σ → World σ → Prop} [IsPreorder (World σ) R]
  (hwanes : ∀ {w w' : World σ}, w.Wanes w' → R w w') (htidied : ∀ w : World σ, R w w.tidied)
  (hlaunch : Attempt.Within (s.launchCoordinator : Attempt SupervisorFault σ StartedProcess) R)

include htidied in
theorem requireNoCoordinator_within :
    Attempt.Within (s.requireNoCoordinator : Attempt SupervisorFault σ Unit) R := by
  intro w
  rw [attempt_requireNoCoordinator]
  cases w.coordinator? with
  | some x => exact refl_of R w
  | none => exact htidied w

include hwanes htidied hlaunch

theorem startCoordinator_within :
    Attempt.Within (s.startCoordinator : Attempt SupervisorFault σ StartedProcess) R := by
  apply s.recordingFailure_within hwanes
  apply Attempt.Within.bind (s.requireNoCoordinator_within htidied)
  intro u
  exact hlaunch

omit htidied in
theorem goOn_within (looked : Except SupervisorFault Unit) :
    Act.Within (s.goOn looked : Act σ (Except SupervisorFault StartedProcess)) R := by
  cases looked with
  | ok u => exact s.recordingFailure_within hwanes hlaunch .coordinator none
  | error e => exact .pure _

theorem startCoordinatorTwice_within :
    Act.Within (s.startCoordinatorTwice : Act σ (List (Except SupervisorFault StartedProcess)))
      R := by
  have hlook : Act.Within
      (s.recordingFailure .coordinator none s.requireNoCoordinator :
        Attempt SupervisorFault σ _).run R :=
    s.recordingFailure_within hwanes (s.requireNoCoordinator_within htidied) .coordinator none
  apply Act.Within.bind hlook
  intro first
  apply Act.Within.bind hlook
  intro second
  apply Act.Within.bind (s.goOn_within hwanes hlaunch first)
  intro one
  apply Act.Within.bind (s.goOn_within hwanes hlaunch second)
  intro other
  exact .pure _

end

theorem startCoordinator_moves :
    Attempt.Moves (s.startCoordinator : Attempt SupervisorFault σ StartedProcess) :=
  s.startCoordinator_within World.Wanes.reaches World.reaches_tidied s.launchCoordinator_moves

theorem startCoordinatorTwice_moves :
    Act.Moves (s.startCoordinatorTwice :
      Act σ (List (Except SupervisorFault StartedProcess))) :=
  s.startCoordinatorTwice_within World.Wanes.reaches World.reaches_tidied s.launchCoordinator_moves

theorem attempt_chooseWorkerId (w : World σ) (names : NameSource) (launch : WorkerLaunch) :
    ∃ n, (w.attempt (chooseWorkerId names launch)).2 = { w with madeUp := n } := by
  rw [chooseWorkerId]
  split
  · next id _ =>
    refine ⟨w.madeUp, ?_⟩
    rw [World.attempt_bind, World.attempt_check]
    cases checked (Identifier.check "worker id" id) with
    | error e => rfl
    | ok u => rfl
  · exact ⟨w.madeUp + 1, rfl⟩

/-- A plan for the worker of a launch whose paths and capacity pass the checks. -/
structure Plans (launch : WorkerLaunch) (plan : WorkerPlan) : Prop where
  programPath : plan.programPath = launch.programPath
  inputsFolder : plan.inputsFolder = inputsFolder launch.inputPath
  checked : s.checkLaunch launch = .ok plan.capacity

/-- What the worker is to read is there, seen from the gateway's own directory. -/
structure HoldsFiles (w : World σ) (launch : WorkerLaunch) : Prop where
  program : w.host.files.isFile w.host.directory launch.programPath = true
  folder : w.host.files.isDirectory w.host.directory (inputsFolder launch.inputPath) = true

theorem attempt_checkWorker (w : World σ) (names : NameSource) (launch : WorkerLaunch) :
    (∃ n, (w.attempt (s.checkWorker names launch)).2 = { w with madeUp := n }) ∧
      ∀ plan, (w.attempt (s.checkWorker names launch)).1 = .ok plan →
        s.Plans launch plan ∧ HoldsFiles w launch := by
  rw [checkWorker, World.attempt_bind, World.attempt_check]
  cases hchecked : s.checkLaunch launch with
  | error e => exact ⟨⟨w.madeUp, rfl⟩, fun plan hplan => by cases hplan⟩
  | ok capacity =>
    dsimp only
    obtain ⟨n, hn⟩ := attempt_chooseWorkerId w names launch
    rw [World.attempt_bind]
    rcases hid : w.attempt (chooseWorkerId names launch) with ⟨e | id, v⟩
    · rw [hid] at hn
      exact ⟨⟨n, hn⟩, fun plan hplan => by cases hplan⟩
    · rw [hid] at hn
      obtain rfl := hn
      dsimp only
      rw [World.attempt_bind_ok (World.attempt_get _)]
      dsimp only
      by_cases hfile : w.host.files.isFile w.host.directory launch.programPath = true
      · by_cases hfolder : w.host.files.isDirectory w.host.directory
            (inputsFolder launch.inputPath) = true
        · rw [if_pos hfile, if_pos hfolder]
          refine ⟨⟨n, rfl⟩, fun plan hplan => ?_⟩
          obtain rfl := Except.ok.inj hplan
          exact ⟨⟨rfl, rfl, hchecked⟩, hfile, hfolder⟩
        · rw [if_pos hfile, if_neg hfolder]
          exact ⟨⟨n, rfl⟩, fun plan hplan => by cases hplan⟩
      · rw [if_neg hfile]
        exact ⟨⟨n, rfl⟩, fun plan hplan => by cases hplan⟩

theorem attempt_launchWorker (w : World σ) (plan : WorkerPlan) :
    w.attempt (s.launchWorker plan) =
      match (w.tracking.worker? plan.workerId).filter fun y => (w.run (World.isAlive y)).1 with
      | some y => (.error (.workerRunning plan.workerId y.pid), w)
      | none => w.attempt do
        let program ← s.locate .worker
        let x ← s.spawn .worker (some plan.workerId) program (s.workerArguments plan)
          (some plan.capacity)
        install x (fun t => t.installWorker plan.workerId x) fun y =>
          .workerRunning plan.workerId y.pid
        awaitStart x
        Attempt.surely (s.recordStarted x)
        return ⟨.worker, some plan.workerId, x.pid, program.path, program.source,
          some plan.capacity⟩ := by
  rw [launchWorker, World.attempt_bind_ok (World.attempt_get w)]
  dsimp only
  cases w.tracking.worker? plan.workerId with
  | none => rfl
  | some y =>
    rw [Option.filter_some]
    dsimp only
    rw [World.attempt_bind, World.attempt_surely]
    cases (w.run (World.isAlive y)).1 with
    | true => rfl
    | false => rfl

theorem launchWorker_cases (w : World σ) (plan : WorkerPlan) :
    let after := (w.attempt (s.launchWorker plan)).2
    after = w ∨
      (∀ y, w.tracking.worker? plan.workerId = some y → (w.run (World.isAlive y)).1 = false) ∧
      ∃ program c,
        w.host.newChild program.path (s.workerArguments plan)
            (s.startDirectory .worker program.path) = .ok c ∧
          let x := handleOf w .worker (some plan.workerId) program c (some plan.capacity)
          World.Settles (fun t => t.installWorker plan.workerId x) x (w.spawned c x) after := by
  have hlaunch := s.launch_cases w .worker (some plan.workerId) (s.workerArguments plan)
    (some plan.capacity) (fun x t => t.installWorker plan.workerId x)
    (fun y => .workerRunning plan.workerId y.pid) fun x program => ⟨.worker, some plan.workerId,
      x.pid, program.path, program.source, some plan.capacity⟩
  dsimp only at hlaunch ⊢
  rw [attempt_launchWorker]
  cases halive : (w.tracking.worker? plan.workerId).filter fun y =>
      (w.run (World.isAlive y)).1 with
  | some y => exact .inl rfl
  | none =>
    refine hlaunch.imp_right fun hstarts => ⟨fun y hy => ?_, hstarts⟩
    rw [hy, Option.filter_some, ite_eq_right_iff] at halive
    exact Bool.eq_false_iff.2 fun htrue => nomatch halive htrue

theorem startWorker_cases (w : World σ) (names : NameSource) (launch : WorkerLaunch) :
    let after := (w.attempt (s.startWorker names launch)).2
    w.Wanes after ∨
      ∃ plan, s.Plans launch plan ∧
        (HoldsFiles w launch ∧
          ∀ y, w.tracking.worker? plan.workerId = some y → (w.run (World.isAlive y)).1 = false) ∧
        ∃ n program c,
          w.host.newChild program.path (s.workerArguments plan)
              (s.startDirectory .worker program.path) = .ok c ∧
            let x := handleOf w .worker (some plan.workerId) program c (some plan.capacity)
            World.Settles (fun t => t.installWorker plan.workerId x) x
              (World.spawned { w with madeUp := n } c x) after := by
  dsimp only
  obtain ⟨⟨n, hn⟩, hplans⟩ := s.attempt_checkWorker w names launch
  have hlast := s.wanes_recordingFailure w .worker launch.workerId do
    s.launchWorker (← s.checkWorker names launch)
  rw [← startWorker, World.attempt_bind] at hlast
  rcases hchecked : w.attempt (s.checkWorker names launch) with ⟨e | plan, v⟩
  · rw [hchecked] at hn hlast
    obtain rfl := hn
    exact .inl (.head (.makeName w n) hlast)
  · rw [hchecked] at hn hlast hplans
    obtain rfl := hn
    rcases s.launchWorker_cases { w with madeUp := n } plan with hsame | ⟨hfree, hstarts⟩
    · rw [hsame] at hlast
      exact .inl (.head (.makeName w n) hlast)
    · obtain ⟨program, c, hchild, hsettles⟩ := hstarts
      obtain ⟨hplan, hfiles⟩ := hplans plan rfl
      exact .inr ⟨plan, hplan, ⟨hfiles, hfree⟩, n, program, c, hchild, hsettles.trans hlast⟩

theorem reaches_installWorker {w : World σ} (n : Nat) (id : String) (capacity : Option Nat)
    {program : LocatedProgram} {args : List String} {directory : Option String} {c : Child}
    (hchild : w.host.newChild program.path args directory = .ok c) :
    let x := handleOf w .worker (some id) program c capacity
    let spawned := World.spawned { w with madeUp := n } c x
    w.Reaches { spawned with tracking := (spawned.tracking.installWorker id x).2 } := by
  intro x spawned
  have hname : World.Move w { w with madeUp := n } := .wane (.makeName w n)
  have hspawn : World.Move { w with madeUp := n } spawned := .spawn hchild rfl rfl
  have hplace : x ∈ spawned.started := World.mem_started_spawned _ c x
  exact .head hname (.head hspawn (.single (.holdWorker hplace rfl)))

theorem startWorker_moves (names : NameSource) (launch : WorkerLaunch) :
    Attempt.Moves (s.startWorker names launch : Attempt SupervisorFault σ StartedProcess) := by
  intro w
  rcases s.startWorker_cases w names launch with hwanes | ⟨plan, -, -, n, program, c, hchild, hsettles⟩
  · exact hwanes.reaches
  · exact (reaches_installWorker n _ _ hchild).trans hsettles.wanes.reaches

end Supervisor
end CoordinatorGateway
