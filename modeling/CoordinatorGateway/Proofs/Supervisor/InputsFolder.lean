import CoordinatorGateway.Proofs.Launch.Orders
import CoordinatorGateway.Proofs.Supervisor.Runs
import CoordinatorGateway.Proofs.Validation.Folders

namespace CoordinatorGateway

variable {σ : Type}

def Effect.child? : Effect → Option Child
  | .spawn c => some c
  | _ => none

namespace World

variable {w w' : World σ}

def spawns (w : World σ) : List Child := w.trace.filterMap Effect.child?

theorem Wane.spawns (h : Wane w w') : w'.spawns = w.spawns := by
  cases h with
  | @note e hspawn =>
    have hnone : e.child? = none := by
      cases e with
      | spawn c => exact absurd rfl (hspawn c)
      | _ => rfl
    rw [World.spawns, List.filterMap_append, List.filterMap_cons_none hnone]
    exact List.append_nil _
  | signal pid s =>
    rw [World.spawns, List.filterMap_append]
    exact List.append_nil _
  | makeName n => rfl
  | watch _ => rfl
  | clear _ => rfl
  | forgetWorkers _ _ => rfl

theorem Wanes.spawns (h : w.Wanes w') : w'.spawns = w.spawns := by
  induction h with
  | refl => rfl
  | tail _ hwane ih => exact (Wane.spawns hwane).trans ih

theorem spawns_spawned (w : World σ) (c : Child) (x : Handle) :
    (w.spawned c x).spawns = w.spawns ++ [c] :=
  List.filterMap_append

end World

namespace Supervisor

variable (s : Supervisor)

theorem checked_eq_ok_iff {α : Type} {result : Except Failure α} {a : α} :
    checked result = .ok a ↔ result = .ok a :=
  Except.mapError_eq_ok_iff

theorem fit_of_checkLaunch {launch : WorkerLaunch} {capacity : Nat}
    (h : s.checkLaunch launch = .ok capacity) :
    Location.fault? launch.programPath .program s.policy = none ∧
      Location.fault? launch.inputPath .input s.policy = none := by
  rw [checkLaunch] at h
  by_cases hprogram : isBlank launch.programPath = true
  · rw [if_pos hprogram] at h
    cases h
  · by_cases hinput : isBlank launch.inputPath = true
    · rw [if_neg hprogram, if_pos hinput] at h
      cases h
    · rw [if_neg hprogram, if_neg hinput] at h
      simp only [Except.bind_eq_ok_iff, checked_eq_ok_iff, Location.check_eq_ok_iff] at h
      obtain ⟨_, hprogramFit, _, hinputFit, -⟩ := h
      exact ⟨hprogramFit, hinputFit⟩

theorem input_fit_of_checkLaunch {launch : WorkerLaunch} {capacity : Nat}
    (h : s.checkLaunch launch = .ok capacity) :
    Location.fault? launch.inputPath .input s.policy = none :=
  (s.fit_of_checkLaunch h).2

open Location (steps part? resolve)

theorem inputsFolder_eq {path folder last : String} (h : Path.splitLast? path = some (folder, last)) :
    Path.isAbsolute (inputsFolder path) = Path.isAbsolute folder ∧
      steps (inputsFolder path) = steps folder := by
  rw [inputsFolder, Path.parent?, h]
  simp only [Option.map_some]
  split
  · next hempty =>
    rw [String.isEmpty_iff.1 hempty]
    exact ⟨by decide +kernel, by decide +kernel⟩
  · exact ⟨rfl, rfl⟩

/-- An input with a name lies in its folder, under that name. -/
theorem resolve_inputsFolder {path name : String} (h : Path.fileName? path = some name)
    (base : Option String) :
    resolve base path = resolve base (inputsFolder path) ++ [.name name] := by
  rw [Path.fileName?] at h
  split at h
  · next folder last hlast =>
    split at h
    · cases h
    · next hnamed =>
      obtain rfl := Option.some.inj h
      simp only [Bool.or_eq_true, beq_iff_eq, not_or] at hnamed
      obtain ⟨habsolute, hsteps, hidle⟩ := Path.steps_of_splitLast?_eq_some hlast
      obtain ⟨hfolder, hfolderSteps⟩ := inputsFolder_eq hlast
      have hne : last ≠ "" := by
        rintro rfl
        exact hnamed.1 (hidle (Location.part?_eq_none_iff.2 (.inl rfl))).1
      have hpart : part? last = some (.name last) :=
        Location.part?_eq_some_name_iff.2 ⟨rfl, hne, hnamed.1, hnamed.2⟩
      rw [hpart, ← hfolderSteps] at hsteps
      rw [Location.resolve_eq_walk base (hfolder.trans habsolute) hsteps, Location.walk]
  · cases h

theorem inputsFolder_of_nameless {path : String} (hdots : Location.hasDots path = false)
    (h : Path.fileName? path = none) : inputsFolder path = "." := by
  rw [inputsFolder, Path.parent?]
  cases hlast : Path.splitLast? path with
  | none => rfl
  | some pair =>
    obtain ⟨folder, last⟩ := pair
    obtain ⟨-, hsteps, hidle⟩ := Path.steps_of_splitLast?_eq_some hlast
    rw [Path.fileName?, hlast] at h
    cases hpart : part? last with
    | none =>
      obtain ⟨-, rfl⟩ := hidle hpart
      rfl
    | some p =>
      rw [hpart] at hsteps
      have hmem : p ∈ steps path := by
        rw [hsteps]
        exact List.mem_append_right _ List.mem_cons_self
      obtain ⟨name, rfl⟩ := Location.exists_name_of_mem_steps hdots hmem
      obtain ⟨rfl, -, hpoint, hup⟩ := Location.part?_eq_some_name_iff.1 hpart
      simp [hpoint, hup] at h

/-- A worker that is started is given the folder of its input, and the input is under a root. The
folder is under one just when the input, if it has a name, is below one; an input without a name is
read from where relative paths start. -/
theorem startWorker_inputsFolder (w : World σ) (names : NameSource) (launch : WorkerLaunch) :
    let after := (w.attempt (s.startWorker names launch)).2
    after.spawns = w.spawns ∨
      ∃ c program url rest, after.spawns = w.spawns ++ [c] ∧
        c.argv = program :: "--coordinator-url" :: url :: "--elf" :: launch.programPath ::
          "--inputs-folder" :: inputsFolder launch.inputPath :: rest ∧
        (s.policy.inputRoots ≠ [] → s.policy.Within launch.inputPath) ∧
        (s.policy.Within (inputsFolder launch.inputPath) ↔
          match Path.fileName? launch.inputPath with
          | some _ => s.policy.Below launch.inputPath
          | none => s.policy.Within ".") := by
  dsimp only
  rcases s.startWorker_cases w names launch with hwanes | ⟨plan, hplan, -, n, program, c, hchild, hsettles⟩
  · exact .inl hwanes.spawns
  · have hspawns := hsettles.wanes.spawns
    obtain ⟨-, hargv⟩ := Host.newChild_ok hchild
    obtain ⟨hdots, hinside⟩ := Location.of_fault?_eq_none (s.input_fit_of_checkLaunch hplan.checked)
    refine .inr ⟨c, program.path, Address.normalize s.coordinatorUrl,
      "--compute-capacity" :: toString plan.capacity :: "--worker-id" :: plan.workerId ::
        s.processes.workerArgs, ?_, ?_, hinside, ?_⟩
    · rw [hspawns, World.spawns, World.spawns]
      exact List.filterMap_append
    · rw [hargv, workerArguments, hplan.programPath, hplan.inputsFolder]
      rfl
    · cases hname : Path.fileName? launch.inputPath with
      | some name => exact Location.Policy.within_iff_below (resolve_inputsFolder hname _)
      | none => rw [inputsFolder_of_nameless hdots hname]

/-- An input that is itself a root passes the checks, and the worker is given what is above it. -/
theorem startWorker_inputsFolder_outside :
    let s : Supervisor := { furnished with policy := ⟨["/in"], none⟩ }
    let launch : WorkerLaunch := ⟨"/worker", "/in", none, some "w"⟩
    let done := (World.initial () (.furnished {}) "").attempt (s.startWorker .blank launch)
    done.1 = .ok ⟨.worker, some "w", Host.firstPid, "/worker", .explicit, some 10⟩ ∧
      done.2.spawns.map Child.argv =
        [["/worker", "--coordinator-url", "http://", "--elf", "/worker", "--inputs-folder", "/",
          "--compute-capacity", "10", "--worker-id", "w"]] ∧
      ¬ s.policy.Within "/" := by
  decide +kernel

/-- The worker for an input below a root is given a folder under that root. -/
theorem startWorker_inputsFolder_below :
    let files := (Host.furnished {}).files.put ["in", "x"] ⟨"", false, .none⟩
    let host : Host := { Host.furnished {} with files := files }
    let s : Supervisor := { furnished with policy := ⟨["/in"], none⟩ }
    let launch : WorkerLaunch := ⟨"/worker", "/in/x", none, some "w"⟩
    let after := ((World.initial () host "").attempt (s.startWorker .blank launch)).2
    (∃ c, after.spawns = [c]) ∧ s.policy.Within (inputsFolder launch.inputPath) := by
  intro files host s launch after
  have hstarted : after.spawns ≠ [] := by decide +kernel
  rcases s.startWorker_inputsFolder (World.initial () host "") .blank launch with
    hnone | ⟨c, program, url, rest, hspawns, -, -, hwithin⟩
  · exact absurd hnone hstarted
  · have hname : Path.fileName? launch.inputPath = some "x" := by decide +kernel
    rw [hname] at hwithin
    refine ⟨⟨c, hspawns⟩, hwithin.2 ⟨"/in", List.mem_cons_self, ?_, ?_⟩⟩
    · decide +kernel
    · decide +kernel

end Supervisor

end CoordinatorGateway
