import CoordinatorGateway.Supervisor.Basic
import CoordinatorGateway.Validation.Identifier

namespace CoordinatorGateway

inductive StopOutcome where
  | notRunning
  /-- Forced means that a process that is not managed needed the forceful signal. -/
  | stopped (pids : List Nat) (managed forced : Bool)
  deriving DecidableEq, Repr

def StopOutcome.json : StopOutcome → Json
  | .notRunning => .map [("status", .string "not_running")]
  | .stopped pids managed forced =>
    .map [("status", .string "stopped"), ("pids", .array (pids.map .nat)),
      ("managed", .bool managed), ("forced", .bool forced)]

namespace Supervisor

open Attempt (surely check)

variable {σ : Type}

def recordStopped (s : Supervisor) (role : Role) (workerId : Option String) (pids : List Nat)
    (managed forced : Bool) : Act σ Unit :=
  s.record ⟨"process.stop", none, some .succeeded, none,
    [("role", .string role.label), ("pids", .array (pids.map .nat)), ("managed", .bool managed),
      ("forced", .bool forced)] ++ Json.optional "worker_id" (workerId.map .string)⟩

/-- Ends a process that is still there when the grace period is over. -/
def endAfterGrace (h : Handle) : Act σ Unit := do
  unless (← get).tracking.hasExited h do discard <| World.signal h.pid .forceful

def send (pid : Nat) (signal : Signal) : Attempt SupervisorFault σ Bool := do
  check <| (← surely (World.signal pid signal)).mapError (.notSignalled pid)

/-- Stops the process of a handle that is no longer in its place. The answer is that of the
graceful signal. -/
def stopManaged (s : Supervisor) (h : Handle) : Attempt SupervisorFault σ StopOutcome := do
  if ← send h.pid .graceful then
    surely (endAfterGrace h)
    surely (s.recordStopped h.role h.id [h.pid] true false)
    return .stopped [h.pid] true false
  else return .notRunning

/-- Sends the graceful signal to each process, and answers which of them were there. -/
def signalAll : List Nat → Attempt SupervisorFault σ (List Nat)
  | [] => return []
  | pid :: pids => do
    let delivered ← send pid .graceful
    let rest ← signalAll pids
    return if delivered then pid :: rest else rest

def killAll : List Nat → Attempt SupervisorFault σ Unit
  | [] => return ()
  | pid :: pids => do
    discard <| send pid .forceful
    killAll pids

def stopOthers (s : Supervisor) (role : Role) (workerId : Option String) (pids : List Nat) :
    Attempt SupervisorFault σ StopOutcome := do
  let signalled ← signalAll pids
  if signalled.isEmpty then return .notRunning
  let remaining := (← s.listed role).filter signalled.contains
  killAll remaining
  let forced := !remaining.isEmpty
  surely (s.recordStopped role workerId signalled false forced)
  return .stopped signalled false forced

def dropWorkers : Act σ Unit := World.track fun t => ((), t.clearWorkers.2)

/-- Stops the managed coordinator, or else all others. The handles of workers go with it. -/
def stopCoordinator (s : Supervisor) : Attempt SupervisorFault σ StopOutcome := do
  let tracked ← surely (World.track Tracking.takeCoordinator)
  let t := (← get).tracking
  match tracked.filter fun h => !t.hasExited h with
  | some h =>
    let outcome ← s.stopManaged h
    surely dropWorkers
    return outcome
  | none =>
    let pids ← s.otherCoordinators none
    if pids.isEmpty then return .notRunning
    let outcome ← s.stopOthers .coordinator none pids
    surely dropWorkers
    return outcome

def stopWorker (s : Supervisor) (id : String) : Attempt SupervisorFault σ StopOutcome := do
  check (checked (Identifier.check "worker id" id))
  let tracked ← surely (World.track fun t => t.removeWorker id)
  let t := (← get).tracking
  match tracked.filter fun h => !t.hasExited h with
  | some h => s.stopManaged h
  | none =>
    let pids ← s.otherWorkers id
    if pids.isEmpty then return .notRunning
    s.stopOthers .worker (some id) pids

/-- Stops every managed process, as when the gateway ends. Signals that fail are passed over. -/
def stopAllManaged : Act σ Unit := do
  let workers ← World.track Tracking.clearWorkers
  let coordinator ← World.track Tracking.takeCoordinator
  let t := (← get).tracking
  let running := (workers ++ coordinator.toList).filter fun h => !t.hasExited h
  for h in running.mergeSort fun a b => decide (a.pid ≤ b.pid) do
    discard <| World.signal h.pid .graceful
    endAfterGrace h

end Supervisor

end CoordinatorGateway
