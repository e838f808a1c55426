import CoordinatorGateway.Supervisor.Basic
import CoordinatorGateway.Validation.Identifier

namespace CoordinatorGateway

structure CoordinatorStatus where
  running : Bool
  managed : Bool
  pid : Option Nat
  others : List Nat
  startedAt : Option String
  program : Option String
  deriving DecidableEq, Repr

def CoordinatorStatus.members (s : CoordinatorStatus) : List Json.Member :=
  [("running", .bool s.running), ("managed", .bool s.managed),
    ("external_pids", .array (s.others.map .nat))] ++
    Json.optional "pid" (s.pid.map .nat) ++
    Json.optional "started_at" (s.startedAt.map .string) ++
    Json.optional "binary" (s.program.map .string)

structure WorkerStatus where
  workerId : String
  pid : Nat
  running : Bool
  capacity : Option Nat
  startedAt : String
  exitCode : Option Nat
  deriving DecidableEq, Repr

def WorkerStatus.members (s : WorkerStatus) : List Json.Member :=
  [("worker_id", .string s.workerId), ("pid", .nat s.pid), ("running", .bool s.running),
    ("managed", .bool true), ("started_at", .string s.startedAt)] ++
    Json.optional "compute_capacity" (s.capacity.map .nat) ++
    Json.optional "exit_code" (s.exitCode.map .nat)

namespace Supervisor

open Attempt (surely check)

variable {σ : Type}

/-- The managed coordinator, if it is alive; the handle of a dead one is dropped. -/
def liveCoordinator : Act σ (Option Handle) := do
  match (← get).tracking.coordinator with
  | none => return none
  | some h =>
    if ← World.isAlive h then return some h
    World.track fun t => ((), t.clearCoordinatorIf h.generation)
    return none

def coordinatorStatus (s : Supervisor) : Attempt SupervisorFault σ CoordinatorStatus := do
  let tracked ← surely liveCoordinator
  let others ← s.otherCoordinators (tracked.map Handle.pid)
  let running := tracked.isSome || !others.isEmpty
  unless running do surely (World.track fun t => ((), t.clearWorkers.2))
  return ⟨running, tracked.isSome, (tracked.map Handle.pid).or others.head?, others,
    tracked.map Handle.startedAt, tracked.map Handle.program⟩

def statusOf (h : Handle) : Act σ WorkerStatus := do
  let running ← World.isAlive h
  let exit := (← get).tracking.exit? h
  return ⟨h.id.getD "", h.pid, running, h.capacity, h.startedAt, exit.bind Exit.code⟩

/-- The managed workers in the order of their ids, and none without a coordinator. -/
def workerStatus (s : Supervisor) : Attempt SupervisorFault σ (List WorkerStatus) := do
  if (← s.coordinatorStatus).running then
    surely ((← get).tracking.workerHandles.mapM statusOf)
  else return []

def workerStatusById (s : Supervisor) (id : String) : Attempt SupervisorFault σ WorkerStatus := do
  check (checked (Identifier.check "worker id" id))
  match (← s.workerStatus).find? fun w => w.workerId == id with
  | some w => return w
  | none => throw (.unknownWorker id)

end Supervisor

end CoordinatorGateway
