import CoordinatorGateway.Proofs.Supervisor.InputsFolder
import CoordinatorGateway.Proofs.Validation.Bases

namespace CoordinatorGateway

variable {σ : Type}

theorem Host.newChild_directory {h : Host} {program : String} {args : List String}
    {directory : Option String} {c : Child} (hchild : h.newChild program args directory = .ok c) :
    h.startDirectory directory = .ok c.directory := by
  obtain ⟨-, _, hplace, _, -, _, -, rfl⟩ := newChild_eq_ok_iff.1 hchild
  exact hplace

namespace Supervisor

open Location (steps resolve)

variable (s : Supervisor)

theorem parent_not_mem_steps_inputsFolder {path : String} (h : Location.hasDots path = false) :
    .parent ∉ steps (inputsFolder path) := by
  cases hlast : Path.splitLast? path with
  | none =>
    have hfolder : inputsFolder path = "." := by
      rw [inputsFolder, Path.parent?, hlast]
      rfl
    rw [hfolder]
    decide +kernel
  | some pair =>
    obtain ⟨folder, last⟩ := pair
    obtain ⟨-, hsteps, -⟩ := Path.steps_of_splitLast?_eq_some hlast
    rw [(inputsFolder_eq hlast).2]
    intro hmem
    refine Location.parent_not_mem_steps h ?_
    rw [hsteps]
    exact List.mem_append_left _ hmem

/-- A worker is given the paths that were checked. Each of them leads it to what was checked just
when the path is absolute, or the worker starts in the directory of the gateway. -/
theorem startWorker_childPaths (w : World σ) (names : NameSource) (launch : WorkerLaunch) :
    let after := (w.attempt (s.startWorker names launch)).2
    let folder := inputsFolder launch.inputPath
    after.spawns = w.spawns ∨
      ∃ c program url rest, after.spawns = w.spawns ++ [c] ∧
        w.host.startDirectory (s.startDirectory .worker program) = .ok c.directory ∧
        c.argv = program :: "--coordinator-url" :: url :: "--elf" :: launch.programPath ::
          "--inputs-folder" :: folder :: rest ∧
        w.host.files.isFile w.host.directory launch.programPath = true ∧
        w.host.files.isDirectory w.host.directory folder = true ∧
        let same := resolve none c.directory.path = resolve none w.host.directory.path
        (resolve (some c.directory.path) launch.programPath =
            resolve (some w.host.directory.path) launch.programPath ↔
          Location.isAbsolute launch.programPath = true ∨ same) ∧
        (resolve (some c.directory.path) folder = resolve (some w.host.directory.path) folder ↔
          Location.isAbsolute folder = true ∨ same) := by
  intro after folder
  rcases s.startWorker_cases w names launch with
    hwanes | ⟨plan, hplan, ⟨hfiles, -⟩, n, program, c, hchild, hsettles⟩
  · exact .inl hwanes.spawns
  · have hspawns := hsettles.wanes.spawns
    obtain ⟨-, hargv⟩ := Host.newChild_ok hchild
    obtain ⟨hprogramFit, hinputFit⟩ := s.fit_of_checkLaunch hplan.checked
    have hprogram := (Location.fault?_eq_none_iff.1 hprogramFit).1
    have hinput := (Location.fault?_eq_none_iff.1 hinputFit).1
    refine .inr ⟨c, program.path, Address.normalize s.coordinatorUrl,
      "--compute-capacity" :: toString plan.capacity :: "--worker-id" :: plan.workerId ::
        s.processes.workerArgs, ?_, Host.newChild_directory hchild, ?_, hfiles.program,
      hfiles.folder, ?_, ?_⟩
    · rw [hspawns, World.spawns, World.spawns]
      exact List.filterMap_append
    · rw [hargv, workerArguments, hplan.programPath, hplan.inputsFolder]
      rfl
    · exact Location.resolve_eq_iff (Location.parent_not_mem_steps hprogram.noDots) _ _
    · exact Location.resolve_eq_iff (parent_not_mem_steps_inputsFolder hinput.noDots) _ _

/-- A worker that starts beside its program looks there for what was found in the directory of the
gateway. -/
theorem startWorker_childPaths_apart :
    let files := (((FileSystem.empty.put ["bin", "worker"] ⟨"", true, .runs⟩).put ["srv", "p.elf"]
      ⟨"", false, .none⟩).put ["srv", "in", "x"] ⟨"", false, .none⟩)
    let host : Host := { Host.furnished {} with files, directory := ["srv"] }
    let s : Supervisor := { furnished with
      policy := ⟨[], some "/srv"⟩, workerLocator := { explicit := some "/bin/worker" } }
    let launch : WorkerLaunch := ⟨"p.elf", "in/x", none, some "w"⟩
    let after := ((World.initial () host "").attempt (s.startWorker .blank launch)).2
    after.spawns.map (fun c => (c.argv, c.directory)) =
        [(["/bin/worker", "--coordinator-url", "http://", "--elf", "p.elf", "--inputs-folder", "in",
          "--compute-capacity", "10", "--worker-id", "w"], ["bin"])] ∧
      ∀ c ∈ after.spawns,
        resolve (some c.directory.path) "p.elf" ≠ resolve (some host.directory.path) "p.elf" ∧
          resolve (some c.directory.path) (inputsFolder "in/x") ≠
            resolve (some host.directory.path) (inputsFolder "in/x") := by
  decide +kernel

end Supervisor

end CoordinatorGateway
