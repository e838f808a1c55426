import CoordinatorGateway.Proofs.Processes.Execution
import CoordinatorGateway.Proofs.Programs.Search
import CoordinatorGateway.Proofs.Supervisor.Coordinators
import CoordinatorGateway.Proofs.Supervisor.InputsFolder

namespace CoordinatorGateway

variable {σ : Type}

namespace Supervisor

variable (s : Supervisor)

/-- The gateway locates the file at the place for the role. The file is a program that can be run,
and the repository, if there is one, is a directory. -/
structure Offers (h : Host) (role : Role) (found : LocatedProgram) (place : Place) : Prop where
  located : (s.locator role).locate h.files h.directory role (s.name role) = .ok found
  accepted : h.files.walk h.directory found.path = .ok place
  program : h.HoldsProgram place
  repository : ∀ root ∈ (s.locator role).repoRoot, h.files.isDirectory h.directory root = true

/-- There is a directory for the child to start in, and from there the path leads to the place. -/
def LeadsBack (h : Host) (role : Role) (path : String) (place : Place) : Prop :=
  ∃ directory, h.startDirectory (s.startDirectory role path) = .ok directory ∧
    h.Executes directory path place

def childTexts (role : Role) (path : String) (args : List String) : List String :=
  path :: (s.startDirectory role path).toList ++ args

/-- The start does not fail for want of a process: one child is started under the path, and what it
runs is the file at the place. -/
def StartsAt (w : World σ) (a : Attempt SupervisorFault σ StartedProcess) (path : String)
    (place : Place) : Prop :=
  (∀ role program cause, (w.attempt a).1 ≠ .error (.notStarted role program cause)) ∧
    ∃ c, (w.attempt a).2.spawns = w.spawns ++ [c] ∧ c.argv.head? = some path ∧
      w.host.Executes c.directory path place

variable {s} {role : Role} {found : LocatedProgram} {place : Place} {h : Host} {path : String}

theorem Offers.mayRunAt (hoffers : s.Offers h role found place) :
    ∃ f, h.files.MayRunAt h.directory found.path place f := by
  obtain ⟨there, f, hruns⟩ := Locator.mayRun_of_locateWith hoffers.located
  obtain rfl := Except.ok.inj (hruns.leads.symm.trans hoffers.accepted)
  exact ⟨f, hruns⟩

theorem Offers.not_isDirectoryAt (hoffers : s.Offers h role found place) :
    h.files.isDirectoryAt place = false := by
  obtain ⟨f, -, hholds, -⟩ := hoffers.mayRunAt
  rw [FileSystem.isDirectoryAt, hholds]

theorem Offers.exists_startDirectory (hoffers : s.Offers h role found place)
    (hfolder : '/' ∈ found.path.toList ∨ (s.locator role).repoRoot ≠ none) :
    ∃ directory, h.startDirectory (s.startDirectory role found.path) = .ok directory := by
  rw [startDirectory]
  cases hroot : (s.locator role).repoRoot with
  | some root =>
    obtain ⟨there, hwalk, hdirectory⟩ :=
      FileSystem.isDirectory_iff.1 (hoffers.repository root hroot)
    exact ⟨there, Host.startDirectory_eq_ok_iff.2 ⟨hwalk, hdirectory⟩⟩
  | none =>
    have hslash := hfolder.resolve_right fun hne => hne hroot
    obtain ⟨parent, there, hparent, hwalk, hdirectory⟩ :=
      FileSystem.walk_parent hslash hoffers.accepted hoffers.not_isDirectoryAt
    rw [Option.none_or, hparent]
    exact ⟨there, Host.startDirectory_eq_ok_iff.2 ⟨hwalk, hdirectory⟩⟩

/-- A path with a slash leads back just when the child's directory leads to the same place. -/
theorem Offers.leadsBack_of_slash (hoffers : s.Offers h role found place)
    (hslash : '/' ∈ found.path.toList) :
    ∃ directory, h.startDirectory (s.startDirectory role found.path) = .ok directory ∧
      (s.LeadsBack h role found.path place ↔
        h.files.walk directory found.path = .ok place) := by
  obtain ⟨directory, hstart⟩ := hoffers.exists_startDirectory (.inl hslash)
  refine ⟨directory, hstart, ?_⟩
  constructor
  · rintro ⟨other, hother, hruns⟩
    obtain rfl := Except.ok.inj (hstart.symm.trans hother)
    obtain ⟨f, hleads, -⟩ := (Host.executes_iff_of_slash hslash).1 hruns
    exact hleads
  · intro hleads
    obtain ⟨f, -, hholds, hexecutable⟩ := hoffers.mayRunAt
    exact ⟨directory, hstart,
      (Host.executes_iff_of_slash hslash).2 ⟨f, hleads, hholds, hexecutable⟩⟩

theorem Offers.leadsBack_of_isAbsolute (hoffers : s.Offers h role found place)
    (habsolute : Path.isAbsolute found.path = true) : s.LeadsBack h role found.path place := by
  have hslash := Path.slash_mem_of_isAbsolute habsolute
  obtain ⟨directory, -, hback⟩ := hoffers.leadsBack_of_slash hslash
  rw [hback, FileSystem.walk_of_isAbsolute habsolute directory h.directory]
  exact hoffers.accepted

theorem Offers.not_leadsBack_of_bare (hoffers : s.Offers h role found place)
    (hbare : '/' ∉ found.path.toList) (hroot : (s.locator role).repoRoot = none) :
    ¬ s.LeadsBack h role found.path place := by
  rintro ⟨directory, hstart, -⟩
  have hparent := FileSystem.parent?_of_bare hbare hoffers.accepted hoffers.not_isDirectoryAt
  rw [startDirectory, hroot, Option.none_or, hparent] at hstart
  obtain ⟨hwalk, -⟩ := Host.startDirectory_eq_ok_iff.1 hstart
  cases hwalk

/-- Once there is a child, a start does not fail for want of one. -/
theorem answer_settle (w : World σ) (x : Handle) (step : Tracking → Option Handle × Tracking)
    {fault : Handle → SupervisorFault}
    (hfault : ∀ y role program cause, fault y ≠ .notStarted role program cause)
    (p : StartedProcess) (role : Role) (program cause : String) :
    (w.attempt (do
      install x step fault
      awaitStart x
      Attempt.surely (s.recordStarted x)
      return p)).1 ≠ .error (.notStarted role program cause) := by
  rw [World.attempt_bind, attempt_install]
  dsimp only
  cases (step w.tracking).1 with
  | some y => exact fun hanswer => hfault y role program cause (Except.error.inj hanswer)
  | none =>
    dsimp only
    rw [World.attempt_bind, attempt_awaitStart]
    dsimp only
    generalize (World.run _ World.reap).2 = reaped
    cases reaped.tracking.exit? x with
    | some e => exact nofun
    | none => exact nofun

theorem startsAt_launch_iff {w : World σ} (hoffers : s.Offers w.host role found place)
    (id : Option String) (args : List String) (capacity : Option Nat)
    (step : Handle → Tracking → Option Handle × Tracking) {fault : Handle → SupervisorFault}
    (hfault : ∀ y role program cause, fault y ≠ .notStarted role program cause)
    (answer : Handle → LocatedProgram → StartedProcess) :
    StartsAt w (do
      let program ← s.locate role
      let x ← s.spawn role id program args capacity
      install x (step x) fault
      awaitStart x
      Attempt.surely (s.recordStarted x)
      return answer x program) found.path place ↔
    (s.childTexts role found.path args).any Host.hasZeroByte = false ∧
      s.LeadsBack w.host role found.path place := by
  rw [childTexts, LeadsBack, ← Host.exists_newChild_iff hoffers.program, StartsAt,
    World.attempt_bind, attempt_locate, hoffers.located, Except.mapError_ok]
  dsimp only
  rw [World.attempt_bind, attempt_spawn]
  cases hchild : w.host.newChild found.path args (s.startDirectory role found.path) with
  | error e =>
    constructor
    · rintro ⟨hstarted, -⟩
      exact absurd rfl (hstarted role found.path e)
    · rintro ⟨c, hc, -⟩
      cases hc
  | ok c =>
    dsimp only
    obtain ⟨-, hargv⟩ := Host.newChild_ok hchild
    generalize handleOf w role id found c capacity = x
    have hsettles := s.attempt_settle (w.spawned c x) x (step x) fault (answer x found)
    have hchildren : World.spawns _ = w.spawns ++ [c] :=
      hsettles.wanes.spawns.trans (w.spawns_spawned c x)
    rw [hchildren]
    constructor
    · rintro ⟨-, c', hc', -, hruns⟩
      obtain rfl := List.cons.inj (List.append_cancel_left hc') |>.1
      exact ⟨c, rfl, hruns⟩
    · rintro ⟨c', hc', hruns⟩
      obtain rfl := Except.ok.inj hc'
      exact ⟨s.answer_settle (w.spawned c x) x (step x) hfault (answer x found), c, rfl,
        by rw [hargv]; rfl, hruns⟩

theorem startsAt_recordingFailure_iff {w : World σ} {a : Attempt SupervisorFault σ StartedProcess}
    (role : Role) (workerId : Option String) :
    StartsAt w (s.recordingFailure role workerId a) path place ↔ StartsAt w a path place := by
  have hanswer : (w.attempt (s.recordingFailure role workerId a)).1 = (w.attempt a).1 := by
    rw [recordingFailure, World.attempt_onError]
    rcases w.attempt a with ⟨e | p, v⟩
    · rfl
    · rfl
  rw [StartsAt, StartsAt, hanswer, (s.wanes_recordingFailure w role workerId a).spawns]

theorem startsAt_bind_iff {α : Type} {w v : World σ} {a : Attempt SupervisorFault σ α} {x : α}
    {next : α → Attempt SupervisorFault σ StartedProcess} (ha : w.attempt a = (.ok x, v))
    (hhost : v.host = w.host) (hspawns : v.spawns = w.spawns) :
    StartsAt w (a >>= next) path place ↔ StartsAt v (next x) path place := by
  rw [StartsAt, StartsAt, World.attempt_bind_ok ha, hhost, hspawns]

theorem startsAt_startCoordinator_iff {w : World σ}
    (hoffers : s.Offers w.host .coordinator found place) (hvacant : s.Vacant w) :
    StartsAt w s.startCoordinator found.path place ↔
      (s.childTexts .coordinator found.path s.processes.coordinatorArgs).any Host.hasZeroByte =
        false ∧ s.LeadsBack w.host .coordinator found.path place := by
  have hlook : w.attempt s.requireNoCoordinator = (.ok (), w.tidied) := by
    rw [attempt_requireNoCoordinator, hvacant.1, hvacant.2]
  have hfault (y : Handle) (role : Role) (program cause : String) :
      SupervisorFault.alreadyRunning .coordinator y.pid ≠ .notStarted role program cause := nofun
  rw [startCoordinator, startsAt_recordingFailure_iff, startsAt_bind_iff hlook rfl rfl]
  exact startsAt_launch_iff (w := w.tidied) hoffers none _ none _ hfault _

theorem startsAt_startWorker_iff {w : World σ} {names : NameSource} {launch : WorkerLaunch}
    {plan : WorkerPlan} (hoffers : s.Offers w.host .worker found place)
    (hchecked : (w.attempt (s.checkWorker names launch)).1 = .ok plan)
    (hfree : ∀ y, w.tracking.worker? plan.workerId = some y →
      (w.run (World.isAlive y)).1 = false) :
    StartsAt w (s.startWorker names launch) found.path place ↔
      (s.childTexts .worker found.path (s.workerArguments plan)).any Host.hasZeroByte = false ∧
        s.LeadsBack w.host .worker found.path place := by
  obtain ⟨⟨n, hn⟩, -⟩ := s.attempt_checkWorker w names launch
  have hcheck : w.attempt (s.checkWorker names launch) = (.ok plan, { w with madeUp := n }) :=
    Prod.ext hchecked hn
  have hfault (y : Handle) (role : Role) (program cause : String) :
      SupervisorFault.workerRunning plan.workerId y.pid ≠ .notStarted role program cause := nofun
  have hlaunch := startsAt_launch_iff (w := { w with madeUp := n }) hoffers (some plan.workerId)
    (s.workerArguments plan) (some plan.capacity)
    (fun x t => t.installWorker plan.workerId x) hfault
    fun x program => ⟨.worker, some plan.workerId, x.pid, program.path, program.source,
      some plan.capacity⟩
  rw [startWorker, startsAt_recordingFailure_iff, startsAt_bind_iff hcheck rfl rfl, ← hlaunch,
    launchWorker, startsAt_bind_iff (World.attempt_get _) rfl rfl]
  dsimp only
  cases hy : w.tracking.worker? plan.workerId with
  | none => exact Iff.rfl
  | some y =>
    have halive : World.attempt { w with madeUp := n }
        (Attempt.surely (World.isAlive y) : Attempt SupervisorFault σ Bool) =
          (.ok false, { w with madeUp := n }) := by
      rw [World.attempt_surely]
      exact Prod.ext (congrArg Except.ok (hfree y hy)) rfl
    dsimp only
    rw [startsAt_bind_iff halive rfl rfl]
    exact Iff.rfl

variable (s)

/-- A start that finds its place free runs the file that was located just when the path leads back
to it from where the child starts, and no text for the child has a zero byte. An absolute path leads
back; another path with a slash does so just when it leads to the same file from both directories; a
bare name needs a repository. -/
theorem start_runs_located_iff (names : NameSource) (w : World σ) :
    (∀ found place, s.Offers w.host .coordinator found place → s.Vacant w →
      (StartsAt w s.startCoordinator found.path place ↔
        (s.childTexts .coordinator found.path s.processes.coordinatorArgs).any Host.hasZeroByte =
          false ∧ s.LeadsBack w.host .coordinator found.path place)) ∧
    (∀ found place launch plan, s.Offers w.host .worker found place →
      (w.attempt (s.checkWorker names launch)).1 = .ok plan →
      (∀ y, w.tracking.worker? plan.workerId = some y → (w.run (World.isAlive y)).1 = false) →
      (StartsAt w (s.startWorker names launch) found.path place ↔
        (s.childTexts .worker found.path (s.workerArguments plan)).any Host.hasZeroByte = false ∧
          s.LeadsBack w.host .worker found.path place)) ∧
    ∀ role found place, s.Offers w.host role found place →
      (Path.isAbsolute found.path = true → s.LeadsBack w.host role found.path place) ∧
      ('/' ∈ found.path.toList → ∃ directory,
        w.host.startDirectory (s.startDirectory role found.path) = .ok directory ∧
          (s.LeadsBack w.host role found.path place ↔
            w.host.files.walk directory found.path = .ok place)) ∧
      ('/' ∉ found.path.toList → (s.locator role).repoRoot = none →
        ¬ s.LeadsBack w.host role found.path place) := by
  refine ⟨fun found place hoffers hvacant => startsAt_startCoordinator_iff hoffers hvacant,
    fun found place launch plan hoffers hchecked hfree =>
      startsAt_startWorker_iff hoffers hchecked hfree,
    fun role found place hoffers => ⟨?_, ?_, ?_⟩⟩
  · exact hoffers.leadsBack_of_isAbsolute
  · exact hoffers.leadsBack_of_slash
  · exact hoffers.not_leadsBack_of_bare

/-- A program that is located under a relative path is missing from the folder it lies in. -/
theorem start_misses_located :
    let files := FileSystem.empty.put ["srv", "bin", "coordinator"] ⟨"", true, .runs⟩
    let host : Host := { Host.furnished {} with files, directory := ["srv"] }
    let s : Supervisor := { furnished with
      coordinatorLocator := { explicit := some "bin/coordinator" } }
    let w : World Unit := .initial () host ""
    let done := w.attempt s.startCoordinator
    s.Offers host .coordinator ⟨"bin/coordinator", .explicit⟩ ["srv", "bin", "coordinator"] ∧
      s.Vacant w ∧
      done.1 = .error (.notStarted .coordinator "bin/coordinator" Host.missingText) ∧
      done.2.spawns = [] := by
  intro files host s w done
  refine ⟨⟨by decide +kernel, by decide +kernel, ?_, by decide +kernel⟩, ⟨rfl, by decide +kernel⟩,
    by decide +kernel, by decide +kernel⟩
  exact ⟨⟨"", true, .runs⟩, (false, none), by decide +kernel, rfl⟩

/-- A coordinator and a worker under absolute paths are what is started. -/
theorem start_runs_located_absolute :
    let w : World Unit := .initial () (.furnished {}) ""
    let launch : WorkerLaunch := ⟨"/worker", "/x", none, some "w"⟩
    StartsAt w furnished.startCoordinator "/coordinator" ["coordinator"] ∧
      StartsAt w (furnished.startWorker .blank launch) "/worker" ["worker"] := by
  intro w launch
  have hcoordinator : furnished.Offers w.host .coordinator ⟨"/coordinator", .explicit⟩
      ["coordinator"] :=
    ⟨by decide +kernel, by decide +kernel,
      ⟨⟨"", true, .runs⟩, (false, none), by decide +kernel, rfl⟩, by decide +kernel⟩
  have hworker : furnished.Offers w.host .worker ⟨"/worker", .explicit⟩ ["worker"] :=
    ⟨by decide +kernel, by decide +kernel,
      ⟨⟨"", true, .runs⟩, (false, none), by decide +kernel, rfl⟩, by decide +kernel⟩
  have hchecked : (w.attempt (furnished.checkWorker .blank launch)).1 =
      .ok ⟨"w", "/worker", "/", 10⟩ := by decide +kernel
  obtain ⟨hfirst, hsecond, hpaths⟩ := furnished.start_runs_located_iff .blank w
  have hvacant : furnished.Vacant w := ⟨rfl, by decide +kernel⟩
  constructor
  · refine (hfirst _ _ hcoordinator hvacant).2 ⟨by decide +kernel, ?_⟩
    exact (hpaths _ _ _ hcoordinator).1 (by decide +kernel)
  · refine (hsecond _ _ launch _ hworker hchecked nofun).2 ⟨by decide +kernel, ?_⟩
    exact (hpaths _ _ _ hworker).1 (by decide +kernel)

end Supervisor

end CoordinatorGateway
