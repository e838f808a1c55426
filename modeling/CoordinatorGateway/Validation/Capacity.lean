import CoordinatorGateway.Failure
import CoordinatorGateway.Number.Numeral
import CoordinatorGateway.Unicode.Classes

namespace CoordinatorGateway.Capacity

def notANumber : Failure := .invalidArgument "compute_capacity must be a number"

def ofJson : Json → Except Failure Binary64
  | .number n => .ok n.toBinary64
  | .string s =>
    match Binary64.read? (Text.trim s) with
    | some x => .ok x
    | none => .error notANumber
  | _ => .error notANumber

/-- A capacity is a whole number from one up to the maximum. -/
def check (x : Binary64) (max : Nat) : Except Failure Nat :=
  match x.toInt? with
  | none => .error (.invalidArgument "compute_capacity must be an integer")
  | some n =>
    if n < 1 ∨ (max : Int) < n then
      .error (.invalidArgument ("compute_capacity must be between 1 and " ++ toString max))
    else .ok n.toNat

end CoordinatorGateway.Capacity
