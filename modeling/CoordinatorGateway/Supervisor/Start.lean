import CoordinatorGateway.Supervisor.Basic
import CoordinatorGateway.Validation.Capacity
import CoordinatorGateway.Validation.Identifier

namespace CoordinatorGateway

structure StartedProcess where
  role : Role
  workerId : Option String
  pid : Nat
  program : String
  source : ProgramSource
  capacity : Option Nat
  deriving DecidableEq, Repr

def StartedProcess.members (p : StartedProcess) : List Json.Member :=
  [("role", Json.string p.role.label)] ++
    Json.optional "worker_id" (p.workerId.map .string) ++
    [("pid", .nat p.pid), ("binary", .string p.program), ("source", .string p.source.label)] ++
    Json.optional "compute_capacity" (p.capacity.map .nat)

structure WorkerLaunch where
  programPath : String
  inputPath : String
  capacity : Option Binary64
  workerId : Option String

structure WorkerPlan where
  workerId : String
  programPath : String
  inputsFolder : String
  capacity : Nat
  deriving DecidableEq, Repr

namespace Supervisor

open Attempt (surely check)

variable {σ : Type}

def defaultCapacity : Nat := 10

def locate (s : Supervisor) (role : Role) : Attempt SupervisorFault σ LocatedProgram := do
  let host := (← get).host
  check <| ((s.locator role).locate host.files host.directory role (s.name role)).mapError
    .notLocated

/-- Children start in the repository, if there is one, and else beside their program. -/
def startDirectory (s : Supervisor) (role : Role) (program : String) : Option String :=
  (s.locator role).repoRoot.or (Path.parent? program)

/-- Starts the program and makes a handle for it, which is not in its place yet. -/
def spawn (s : Supervisor) (role : Role) (id : Option String) (program : LocatedProgram)
    (args : List String) (capacity : Option Nat) : Attempt SupervisorFault σ Handle := do
  match ← surely (World.start program.path args (s.startDirectory role program.path)) with
  | .error e => throw (.notStarted role program.path e)
  | .ok child =>
    let generation ← surely (World.track Tracking.nextGeneration)
    let h : Handle :=
      ⟨role, id, child.pid, program.path, (← get).time, capacity, generation⟩
    modify fun w => { w with started := w.started ++ [h] }
    return h

/-- Puts a handle in its place. Where the process of another handle runs there, the new one is
ended again and the fault names the other. -/
def install (h : Handle) (step : Tracking → Option Handle × Tracking)
    (fault : Handle → SupervisorFault) : Attempt SupervisorFault σ Unit := do
  if let some existing ← surely (World.track step) then
    discard <| surely (World.signal h.pid .forceful)
    throw (fault existing)

def awaitStart (h : Handle) : Attempt SupervisorFault σ Unit := do
  surely World.reap
  if let some e := (← get).tracking.exit? h then
    surely (World.track fun t => ((), t.clear h))
    throw (.exitedAtOnce h.role e.code)

def recordStarted (s : Supervisor) (h : Handle) : Act σ Unit :=
  s.record ⟨"process.start", none, some .succeeded, none,
    [("role", .string h.role.label), ("pid", .nat h.pid), ("binary", .string h.program)] ++
      Json.optional "worker_id" (h.id.map .string)⟩

/-- Runs a start and records it if it fails. -/
def recordingFailure {α : Type} (s : Supervisor) (role : Role) (workerId : Option String)
    (attempt : Attempt SupervisorFault σ α) : Attempt SupervisorFault σ α :=
  attempt.onError fun fault => s.record
    ⟨"process.start_failed", none, some .failed, some fault.message,
      [("role", .string role.label)] ++ Json.optional "worker_id" (workerId.map .string)⟩

/-- There is no coordinator yet, neither a managed one nor another. -/
def requireNoCoordinator (s : Supervisor) : Attempt SupervisorFault σ Unit := do
  if let some h := (← get).tracking.coordinator then
    if ← surely (World.isAlive h) then throw (.alreadyRunning .coordinator h.pid)
    surely (World.track fun t => ((), t.clearCoordinatorIf h.generation))
  let others ← s.otherCoordinators none
  unless others.isEmpty do throw (.runningOutside .coordinator others)

def launchCoordinator (s : Supervisor) : Attempt SupervisorFault σ StartedProcess := do
  let program ← s.locate .coordinator
  let h ← s.spawn .coordinator none program s.processes.coordinatorArgs none
  install h (fun t => t.installCoordinator h) fun existing =>
    .alreadyRunning .coordinator existing.pid
  awaitStart h
  surely (s.recordStarted h)
  return ⟨.coordinator, none, h.pid, program.path, program.source, none⟩

def startCoordinator (s : Supervisor) : Attempt SupervisorFault σ StartedProcess :=
  s.recordingFailure .coordinator none do
    s.requireNoCoordinator
    s.launchCoordinator

/-- Two starts, neither of which goes on before both have looked for a coordinator. -/
def startCoordinatorTwice (s : Supervisor) :
    Act σ (List (Except SupervisorFault StartedProcess)) := do
  let first ← (s.recordingFailure .coordinator none s.requireNoCoordinator).run
  let second ← (s.recordingFailure .coordinator none s.requireNoCoordinator).run
  let goOn (looked : Except SupervisorFault Unit) :
      Act σ (Except SupervisorFault StartedProcess) :=
    match looked with
    | .ok () => (s.recordingFailure .coordinator none s.launchCoordinator).run
    | .error e => return .error e
  return [← goOn first, ← goOn second]

def inputsFolder (inputPath : String) : String :=
  match Path.parent? inputPath with
  | some folder => if folder.isEmpty then "." else folder
  | none => "."

def isBlank (s : String) : Bool := (Text.trim s).isEmpty

/-- The checks that need no files: the paths, and the capacity. -/
def checkLaunch (s : Supervisor) (launch : WorkerLaunch) : Except SupervisorFault Nat := do
  if isBlank launch.programPath then throw (.badArgument "elf_path is required")
  if isBlank launch.inputPath then throw (.badArgument "input_path is required")
  checked (Location.check launch.programPath .program s.policy)
  checked (Location.check launch.inputPath .input s.policy)
  match launch.capacity with
  | some x => checked (Capacity.check x s.maxCapacity)
  | none => return defaultCapacity

def chooseWorkerId (names : NameSource) (launch : WorkerLaunch) :
    Attempt SupervisorFault σ String := do
  match launch.workerId.filter fun id => !id.isEmpty with
  | some id =>
    check (checked (Identifier.check "worker id" id))
    return id
  | none => surely (World.makeName names.worker)

def checkWorker (s : Supervisor) (names : NameSource) (launch : WorkerLaunch) :
    Attempt SupervisorFault σ WorkerPlan := do
  let capacity ← check (s.checkLaunch launch)
  let workerId ← chooseWorkerId names launch
  let host := (← get).host
  unless host.files.isFile host.directory launch.programPath do
    throw (.badArgument ("ELF file not found: " ++ launch.programPath))
  let folder := inputsFolder launch.inputPath
  unless host.files.isDirectory host.directory folder do
    throw (.badArgument ("Input directory not found: " ++ folder))
  return ⟨workerId, launch.programPath, folder, capacity⟩

def workerArguments (s : Supervisor) (plan : WorkerPlan) : List String :=
  ["--coordinator-url", Address.normalize s.coordinatorUrl, "--elf", plan.programPath,
    "--inputs-folder", plan.inputsFolder, "--compute-capacity", toString plan.capacity,
    "--worker-id", plan.workerId] ++ s.processes.workerArgs

def launchWorker (s : Supervisor) (plan : WorkerPlan) :
    Attempt SupervisorFault σ StartedProcess := do
  if let some existing := (← get).tracking.worker? plan.workerId then
    if ← surely (World.isAlive existing) then throw (.workerRunning plan.workerId existing.pid)
  let program ← s.locate .worker
  let h ← s.spawn .worker (some plan.workerId) program (s.workerArguments plan)
    (some plan.capacity)
  install h (fun t => t.installWorker plan.workerId h) fun existing =>
    .workerRunning plan.workerId existing.pid
  awaitStart h
  surely (s.recordStarted h)
  return ⟨.worker, some plan.workerId, h.pid, program.path, program.source, some plan.capacity⟩

def startWorker (s : Supervisor) (names : NameSource) (launch : WorkerLaunch) :
    Attempt SupervisorFault σ StartedProcess :=
  s.recordingFailure .worker launch.workerId do
    s.launchWorker (← s.checkWorker names launch)

end Supervisor

end CoordinatorGateway
