import CoordinatorGateway.Number.Binary64

namespace CoordinatorGateway

inductive JsonNumber where
  | whole (n : Int)
  | real (x : Binary64)
  deriving DecidableEq, Repr

def JsonNumber.toBinary64 : JsonNumber → Binary64
  | .whole n => .ofInt n
  | .real x => x

inductive Json where
  | null
  | bool (b : Bool)
  | number (n : JsonNumber)
  | string (s : String)
  | array (items : List Json)
  | object (members : List (String × Json))
  deriving Inhabited, Repr

namespace Json

abbrev Member := String × Json

/-- Members sorted by key, with `key` bound to `value` alone. -/
def putMember (key : String) (value : Json) : List Member → List Member
  | [] => [(key, value)]
  | (k, v) :: rest =>
    if key < k then (key, value) :: (k, v) :: rest
    else if key = k then (key, value) :: rest
    else (k, v) :: putMember key value rest

/-- Later members win over earlier ones of the same key. -/
def sortMembers (members : List Member) : List Member :=
  members.foldl (fun acc m => putMember m.1 m.2 acc) []

def map (members : List Member) : Json := .object (sortMembers members)

def nat (n : Nat) : Json := .number (.whole n)

def int (n : Int) : Json := .number (.whole n)

/-- A member that is left out when there is no value. -/
def optional (key : String) (value : Option Json) : List Member :=
  match value with
  | some v => [(key, v)]
  | none => []

end Json

end CoordinatorGateway
