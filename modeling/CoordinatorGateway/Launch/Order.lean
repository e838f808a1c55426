import CoordinatorGateway.Coordinator.Api
import CoordinatorGateway.Launch.Request
import CoordinatorGateway.Validation.Capacity
import CoordinatorGateway.Validation.Identifier
import CoordinatorGateway.Validation.Location

namespace CoordinatorGateway

structure OrderPolicy where
  maxCapacity : Nat
  paths : Location.Policy
  deriving DecidableEq, Repr

namespace LaunchRequest

def checkCapacity (r : LaunchRequest) (policy : OrderPolicy) : Except Failure Nat :=
  match r.capacity with
  | none => .error (.invalidArgument "compute_capacity is required")
  | some v => do Capacity.check (← Capacity.ofJson v) policy.maxCapacity

/-- An empty path is no path. -/
def programPath? (r : LaunchRequest) : Option String :=
  r.programPath.filter fun path => !path.isEmpty

def order (r : LaunchRequest) (policy : OrderPolicy) : Except Failure LaunchOrder := do
  Identifier.check "block_id" r.blockId
  let capacity ← r.checkCapacity policy
  Location.check r.inputPath .input policy.paths
  if let some path := r.programPath? then Location.check path .program policy.paths
  return ⟨r.blockId, capacity, r.inputPath, r.programPath?⟩

end LaunchRequest

end CoordinatorGateway
