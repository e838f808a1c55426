import CoordinatorGateway.Coordinator.Address
import CoordinatorGateway.Gateway.World
import CoordinatorGateway.Processes.Arguments
import CoordinatorGateway.Supervisor.Fault
import CoordinatorGateway.Validation.Location

namespace CoordinatorGateway

structure Supervisor where
  processes : ProcessSettings
  /-- Where workers find the coordinator. -/
  coordinatorUrl : String
  maxCapacity : Nat
  policy : Location.Policy
  coordinatorLocator : Locator
  workerLocator : Locator
  auditEnabled : Bool

namespace Supervisor

open Attempt (check)

variable {σ : Type}

structure Surroundings where
  searchPath : Option String
  home : Option String

def ofSettings (s : Settings) (files : FileSystem) (directory : Place) (around : Surroundings) :
    Supervisor :=
  let repoRoot := s.processes.repoRoot.or (repoRoot? files directory directory.path)
  let locator (explicit : Option String) : Locator :=
    ⟨explicit, around.searchPath, around.home, systemDirectories, repoRoot⟩
  { processes := s.processes
    coordinatorUrl := Address.normalize s.coordinator.url
    maxCapacity := s.limits.maxCapacity
    policy := ⟨s.limits.inputRoots, some directory.path⟩
    coordinatorLocator := locator s.processes.coordinatorProgram
    workerLocator := locator s.processes.workerProgram
    auditEnabled := s.auditEnabled }

def name (s : Supervisor) : Role → String
  | .coordinator => s.processes.coordinatorName
  | .worker => s.processes.workerName

def locator (s : Supervisor) : Role → Locator
  | .coordinator => s.coordinatorLocator
  | .worker => s.workerLocator

def record (s : Supervisor) (e : AuditEvent) : Act σ Unit :=
  World.record s.auditEnabled e

def checked {α : Type} (result : Except Failure α) : Except SupervisorFault α :=
  result.mapError fun e => .badArgument e.message

def listed (s : Supervisor) (role : Role) : Attempt SupervisorFault σ (List Nat) := do
  check <| ((← get).host.find (s.name role)).mapError .notInspected

/-- Coordinators other than the one with the process number `own`. -/
def otherCoordinators (s : Supervisor) (own : Option Nat) :
    Attempt SupervisorFault σ (List Nat) := do
  return (← s.listed .coordinator).filter fun pid => some pid != own

def withWorkerId (id : String) : List Nat → Attempt SupervisorFault σ (List Nat)
  | [] => return []
  | pid :: pids => do
    let argv ← check <| ((← get).host.commandLine pid).mapError .notInspected
    let rest ← withWorkerId id pids
    return if argv.any (Arguments.has "--worker-id" id) then pid :: rest else rest

def otherWorkers (s : Supervisor) (id : String) : Attempt SupervisorFault σ (List Nat) := do
  let pids ← withWorkerId id (← s.listed .worker)
  let managed := (← get).tracking.workerHandles.map Handle.pid
  return pids.filter fun pid => !managed.contains pid

end Supervisor

end CoordinatorGateway
