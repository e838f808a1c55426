import CoordinatorGateway.Proofs.Coordinator.Address
import CoordinatorGateway.Proofs.Files.Walks
import CoordinatorGateway.Proofs.Json.Digits
import CoordinatorGateway.Proofs.Supervisor.InputsFolder
import CoordinatorGateway.Proofs.Supervisor.WorkerStatus

namespace CoordinatorGateway

variable {σ : Type}

namespace Arguments

variable {flag value arg : String} {rest : List String}

theorem has_cons : has flag value (arg :: rest) = true ↔
    arg = flag ∧ rest.head? = some value ∨ arg = flag ++ "=" ++ value ∨
      has flag value rest = true := by
  simp only [has, Bool.or_eq_true, Bool.and_eq_true, beq_iff_eq, or_assoc]

theorem ne_joined (h : '=' ∉ arg.toList) : arg ≠ flag ++ "=" ++ value := by
  rintro rfl
  simp at h

theorem has_cons_of_plain (h : '=' ∉ arg.toList) : has flag value (arg :: rest) = true ↔
    arg = flag ∧ rest.head? = some value ∨ has flag value rest = true := by
  rw [has_cons, or_iff_right (ne_joined h)]

theorem has_cons_of_ne (hflag : arg ≠ flag) (h : '=' ∉ arg.toList) :
    has flag value (arg :: rest) = true ↔ has flag value rest = true := by
  rw [has_cons_of_plain h, or_iff_right fun hsame => hflag hsame.1]

end Arguments

namespace Supervisor

/-- A text that the command line of a worker gives for the id as well, where the program, the
address of the coordinator, the program to prove and the folder are these. -/
inductive Misread (program url programPath folder : String) : String → Prop
  | afterProgram (h : program = "--worker-id") :
      Misread program url programPath folder "--coordinator-url"
  | afterPath (h : programPath = "--worker-id") :
      Misread program url programPath folder "--inputs-folder"
  | afterFolder (h : folder = "--worker-id") :
      Misread program url programPath folder "--compute-capacity"
  | joined {value : String}
      (h : program = "--worker-id" ++ "=" ++ value ∨ url = "--worker-id" ++ "=" ++ value) :
      Misread program url programPath folder value

variable (s : Supervisor)

theorem equals_not_mem_of_fit {path : String} (h : Location.WellFormed path) :
    '=' ∉ path.toList :=
  fun hmem => absurd (List.all_eq_true.1 h.allowed '=' hmem) (by decide)

theorem equals_not_mem_inputsFolder {path : String} (h : Location.WellFormed path) :
    '=' ∉ (inputsFolder path).toList := by
  rw [inputsFolder]
  split
  · next folder hfolder =>
    split
    · decide
    · exact fun hmem => equals_not_mem_of_fit h ((Path.parent?_prefix hfolder).subset hmem)
  · decide

theorem equals_not_mem_of_wellFormed {id : String} (h : Identifier.WellFormed id) :
    '=' ∉ id.toList :=
  fun hmem => absurd (Identifier.isAllowed_iff.2 (h.characters '=' hmem)) (by decide)

theorem not_mem_toString {c : Char} (h : c.isDigit = false) (n : Nat) :
    c ∉ (toString n).toList := by
  intro hmem
  rw [Json.toList_toString] at hmem
  exact Bool.false_ne_true (h.symm.trans (Json.isDigit_toDigits n c hmem))

theorem ne_flag_of_normal {url : String} (h : Address.Normal url) : url ≠ "--worker-id" := by
  rintro rfl
  have hcolon : ':' ∈ "--worker-id".toList := h.schemed.subset (by decide)
  exact absurd hcolon (by decide)

/-- The texts that are found behind the flag are the id and those that are misread. -/
theorem has_workerArguments {launch : WorkerLaunch} {plan : WorkerPlan}
    (hplan : s.Plans launch plan) (hid : Identifier.WellFormed plan.workerId)
    (hargs : s.processes.workerArgs = []) (program value : String) :
    Arguments.has "--worker-id" value (program :: s.workerArguments plan) = true ↔
      value = plan.workerId ∨ Misread program (Address.normalize s.coordinatorUrl)
        launch.programPath (inputsFolder launch.inputPath) value := by
  obtain ⟨hprogramFit, hinputFit⟩ := s.fit_of_checkLaunch hplan.checked
  have hprogram := (Location.fault?_eq_none_iff.1 hprogramFit).1
  have hinput := (Location.fault?_eq_none_iff.1 hinputFit).1
  have hurl := ne_flag_of_normal (Address.normal_normalize s.coordinatorUrl)
  have hcapacity : toString plan.capacity ≠ "--worker-id" := by
    intro hsame
    have hhyphen := not_mem_toString (c := '-') (by decide) plan.capacity
    rw [hsame] at hhyphen
    exact hhyphen (by decide)
  have hargv : program :: s.workerArguments plan = [program, "--coordinator-url",
      Address.normalize s.coordinatorUrl, "--elf", launch.programPath, "--inputs-folder",
      inputsFolder launch.inputPath, "--compute-capacity", toString plan.capacity, "--worker-id",
      plan.workerId] := by
    rw [workerArguments, hplan.programPath, hplan.inputsFolder, hargs]
    rfl
  rw [hargv, Arguments.has_cons, Arguments.has_cons_of_ne (by decide) (by decide),
    Arguments.has_cons, Arguments.has_cons_of_ne (by decide) (by decide),
    Arguments.has_cons_of_plain (equals_not_mem_of_fit hprogram),
    Arguments.has_cons_of_ne (by decide) (by decide),
    Arguments.has_cons_of_plain (equals_not_mem_inputsFolder hinput),
    Arguments.has_cons_of_ne (by decide) (by decide),
    Arguments.has_cons_of_ne hcapacity (not_mem_toString (by decide) _),
    Arguments.has_cons_of_plain (by decide),
    Arguments.has_cons_of_plain (equals_not_mem_of_wellFormed hid)]
  simp only [List.head?_cons, List.head?_nil, Option.some.injEq, Arguments.has]
  constructor
  · rintro (⟨h, rfl⟩ | h | ⟨h, -⟩ | h | ⟨h, rfl⟩ | ⟨h, rfl⟩ | ⟨-, rfl⟩ | ⟨-, h⟩ | h)
    · exact .inr (.afterProgram h)
    · exact .inr (.joined (.inl h))
    · exact absurd h hurl
    · exact .inr (.joined (.inr h))
    · exact .inr (.afterPath h)
    · exact .inr (.afterFolder h)
    · exact .inl rfl
    · cases h
    · cases h
  · rintro (rfl | h)
    · simp
    · cases h with
      | afterProgram h => simp [h]
      | afterPath h => simp [h]
      | afterFolder h => simp [h]
      | joined h =>
        rcases h with h | h
        · exact .inr (.inl h)
        · exact .inr (.inr (.inr (.inl h)))

/-- A launch that succeeds has started one child, with these arguments, under the path of the
program that is answered. -/
theorem launch_child {w v : World σ} {role : Role} {id : Option String} {args : List String}
    {capacity : Option Nat} {step : Handle → Tracking → Option Handle × Tracking}
    {fault : Handle → SupervisorFault} {answer : Handle → LocatedProgram → StartedProcess}
    {p : StartedProcess}
    (h : w.attempt (do
      let program ← s.locate role
      let x ← s.spawn role id program args capacity
      install x (step x) fault
      awaitStart x
      Attempt.surely (s.recordStarted x)
      return answer x program) = (.ok p, v)) :
    ∃ x program c, p = answer x program ∧ c.argv = program.path :: args ∧
      v.spawns = w.spawns ++ [c] := by
  obtain ⟨program, w₁, hlocate, h⟩ := World.attempt_bind_eq_ok_iff.1 h
  rw [attempt_locate] at hlocate
  obtain ⟨-, rfl⟩ := Prod.mk.inj hlocate
  obtain ⟨x, w₂, hspawn, h⟩ := World.attempt_bind_eq_ok_iff.1 h
  have hsettles := s.attempt_settle w₂ x (step x) fault (answer x program)
  rw [h] at hsettles
  have hspawns : v.spawns = w₂.spawns := hsettles.wanes.spawns
  obtain ⟨_, _, -, h⟩ := World.attempt_bind_eq_ok_iff.1 h
  obtain ⟨_, _, -, h⟩ := World.attempt_bind_eq_ok_iff.1 h
  obtain ⟨_, _, -, hanswer⟩ := World.attempt_bind_eq_ok_iff.1 h
  obtain rfl := Except.ok.inj (congrArg Prod.fst hanswer)
  rw [attempt_spawn] at hspawn
  cases hchild : w.host.newChild program.path args (s.startDirectory role program.path) with
  | error cause =>
    rw [hchild] at hspawn
    cases hspawn
  | ok c =>
    rw [hchild] at hspawn
    obtain ⟨-, rfl⟩ := Prod.mk.inj hspawn
    exact ⟨x, program, c, rfl, (Host.newChild_ok hchild).2,
      hspawns.trans (w.spawns_spawned c _)⟩

theorem launchWorker_child {w v : World σ} {plan : WorkerPlan} {p : StartedProcess}
    (h : w.attempt (s.launchWorker plan) = (.ok p, v)) :
    p.workerId = some plan.workerId ∧ ∃ c, c.argv = p.program :: s.workerArguments plan ∧
      v.spawns = w.spawns ++ [c] := by
  rw [attempt_launchWorker] at h
  cases halive : (w.tracking.worker? plan.workerId).filter fun y => (w.run (World.isAlive y)).1 with
  | some y =>
    rw [halive] at h
    cases h
  | none =>
    rw [halive] at h
    obtain ⟨x, program, c, rfl, hargv, hspawns⟩ := s.launch_child h
    exact ⟨rfl, c, hargv, hspawns⟩

/-- The child of a worker's start, where the program to prove and the folder are given as they were
asked for. The command line names the worker that the start reports, and those that are misread; it
names no other just when nothing is misread that is not the worker's own id. -/
theorem startWorker_names_iff {names : NameSource} (hnames : names.NamesWorkers)
    (hargs : s.processes.workerArgs = []) {w v : World σ} {launch : WorkerLaunch}
    {p : StartedProcess} (h : w.attempt (s.startWorker names launch) = (.ok p, v)) :
    ∃ c id, v.spawns = w.spawns ++ [c] ∧ p.workerId = some id ∧
      let misread := Misread p.program (Address.normalize s.coordinatorUrl) launch.programPath
        (inputsFolder launch.inputPath)
      (∀ value, Arguments.has "--worker-id" value c.argv = true ↔ value = id ∨ misread value) ∧
      ((∀ value, Arguments.has "--worker-id" value c.argv = true ↔ value = id) ↔
        ∀ value, misread value → value = id) := by
  have hstart := s.of_recordingFailure_ok h
  obtain ⟨plan, w₁, hchecked, hlaunch⟩ := World.attempt_bind_eq_ok_iff.1 hstart
  have hid := s.checkWorker_wellFormed names hnames hchecked
  obtain ⟨⟨n, hn⟩, hplans⟩ := s.attempt_checkWorker w names launch
  rw [hchecked] at hn hplans
  obtain rfl := hn
  obtain ⟨hreported, c, hargv, hspawns⟩ := s.launchWorker_child hlaunch
  have hread := s.has_workerArguments (hplans plan rfl).1 hid hargs p.program
  rw [← hargv] at hread
  refine ⟨c, plan.workerId, hspawns, hreported, hread, ?_⟩
  constructor
  · exact fun honly value hmisread => (honly value).1 ((hread value).2 (.inr hmisread))
  · exact fun hown value => (hread value).trans (or_iff_left_of_imp (hown value))

/-- Where nothing is called like the flag, the command line names the worker and no other. -/
theorem startWorker_names_own :
    let names : NameSource := ⟨fun _ => "", fun _ => "worker-00000000"⟩
    let launch : WorkerLaunch := ⟨"/worker", "/input", none, some "w"⟩
    ∃ p v c, (World.initial () (.furnished {}) "").attempt (furnished.startWorker names launch) =
        (.ok p, v) ∧ p.workerId = some "w" ∧ v.spawns = [c] ∧
      ∀ value, Arguments.has "--worker-id" value c.argv = true ↔ value = "w" := by
  intro names launch
  have hnames : names.NamesWorkers := by
    refine fun _ => ⟨List.replicate 8 '0', rfl, fun c hc => .inl ?_, rfl⟩
    rw [List.eq_of_mem_replicate hc]
    decide
  have hanswer : ((World.initial () (.furnished {}) "").attempt
      (furnished.startWorker names launch)).1 =
        .ok ⟨.worker, some "w", Host.firstPid, "/worker", .explicit, some 10⟩ := by
    decide +kernel
  rcases hstart : (World.initial () (.furnished {}) "").attempt
    (furnished.startWorker names launch) with ⟨answer, v⟩
  rw [hstart] at hanswer
  obtain rfl := hanswer
  obtain ⟨c, id, hspawns, hid, -, honly⟩ := furnished.startWorker_names_iff hnames rfl hstart
  obtain rfl := Option.some.inj hid
  have hprogram : '=' ∉ "/worker".toList := by decide
  have hurl : '=' ∉ (Address.normalize "").toList := by decide +kernel
  refine ⟨_, v, c, rfl, rfl, hspawns, honly.2 fun value hmisread => ?_⟩
  cases hmisread with
  | afterProgram h => exact absurd h (by decide)
  | afterPath h => exact absurd h (by decide)
  | afterFolder h => exact absurd h (by decide +kernel)
  | joined h =>
    rcases h with h | h
    · exact absurd h (Arguments.ne_joined hprogram)
    · exact absurd h (Arguments.ne_joined hurl)

/-- The program to prove is called like the flag. The command line then names another worker as
well, and as soon as the gateway has dropped its handles, a stop of that one ends this one. -/
theorem startWorker_names_another :
    let files := (Host.furnished {}).files.put ["--worker-id"] ⟨"", false, .none⟩
    let start : World Unit := .initial () { Host.furnished {} with files } ""
    let s : Supervisor := { furnished with processes := { workerName := "worker" } }
    let launch : WorkerLaunch := ⟨"--worker-id", "/input", none, some "w"⟩
    let done := start.attempt (s.startWorker .blank launch)
    let dropped := s.after .blank done.2 .coordinatorStatus
    done.1 = .ok ⟨.worker, some "w", Host.firstPid, "/worker", .explicit, some 10⟩ ∧
      done.2.spawns.map (fun c => ["w", "--inputs-folder", "v"].map fun value =>
        Arguments.has "--worker-id" value c.argv) = [[true, true, false]] ∧
      (dropped.attempt (s.stopWorker "--inputs-folder")).1 =
        .ok (.stopped [Host.firstPid] false false) := by
  decide +kernel

end Supervisor

end CoordinatorGateway
