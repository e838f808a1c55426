import CoordinatorGateway.Number.Binary64

namespace CoordinatorGateway

/-- How a table came about, which decides what may be added to it later. -/
inductive TableOrigin where
  /-- Named by a header of its own. -/
  | header
  /-- Only part of the name in a longer header. -/
  | implied
  /-- Part of a dotted key. -/
  | dotted
  /-- Written in braces. -/
  | inline
  deriving DecidableEq, Repr

inductive Toml where
  | string (s : String)
  | integer (n : Int)
  | float (x : Binary64)
  | boolean (b : Bool)
  /-- A date, a time of day, or both. -/
  | moment
  | array (items : List Toml)
  | table (origin : TableOrigin) (members : List (String × Toml))
  /-- Tables under one repeated header. -/
  | tables (items : List (List (String × Toml)))
  deriving Repr

namespace Toml

abbrev Members := List (String × Toml)

/-- The members with `value` under `key`, in the place of what was there. -/
def setMember (key : String) (value : Toml) : Members → Members
  | [] => [(key, value)]
  | (k, v) :: rest => if k = key then (key, value) :: rest else (k, v) :: setMember key value rest

/-- A change to the members of a table of the given origin, or a refusal. -/
abbrev Edit := TableOrigin → Members → Option Members

/-- Changes the table at the end of the path. Tables missing on the way get the origin `made`;
of repeated tables the last one is meant. A dotted key does not lead into a table with a header
of its own. -/
def editAt (made : TableOrigin) (edit : Edit) : List String → Edit
  | [], origin, members => edit origin members
  | key :: path, _, members =>
    match members.lookup key with
    | none => do
      let inner ← editAt made edit path made []
      return setMember key (.table made inner) members
    | some (.table origin inner) =>
      if origin = .inline ∨ (made = .dotted ∧ origin = .header) then none
      else do
        let inner ← editAt made edit path origin inner
        return setMember key (.table origin inner) members
    | some (.tables items) =>
      match items.getLast? with
      | none => none
      | some last => do
        let inner ← editAt made edit path .header last
        return setMember key (.tables (items.dropLast ++ [inner])) members
    | some _ => none

/-- A new member. At the end of a dotted key of several parts the table must come from such keys
alone. -/
def addMember (isDotted : Bool) (key : String) (value : Toml) : Edit := fun origin members =>
  if isDotted ∧ origin ≠ .dotted then none
  else if (members.lookup key).isSome then none
  else some (members ++ [(key, value)])

def assign (path : List String) (value : Toml) (members : Members) : Option Members :=
  match path.getLast? with
  | none => none
  | some key =>
    let parents := path.dropLast
    editAt .dotted (addMember (!parents.isEmpty) key value) parents .header members

/-- A header names a table that is new, or has so far only been part of longer headers. -/
def openTable (key : String) : Edit := fun _ members =>
  match members.lookup key with
  | none => some (members ++ [(key, .table .header [])])
  | some (.table .implied inner) => some (setMember key (.table .header inner) members)
  | some _ => none

def addTable (key : String) : Edit := fun _ members =>
  match members.lookup key with
  | none => some (members ++ [(key, .tables [[]])])
  | some (.tables items) => some (setMember key (.tables (items ++ [[]])) members)
  | some _ => none

structure Document where
  members : Members
  current : List String

namespace Document

def empty : Document := ⟨[], []⟩

def header (repeated : Bool) (path : List String) (d : Document) : Option Document :=
  match path.getLast? with
  | none => none
  | some key => do
    let edit := if repeated then addTable key else openTable key
    return ⟨← editAt .implied edit path.dropLast .header d.members, path⟩

def assign (path : List String) (value : Toml) (d : Document) : Option Document := do
  let members ← editAt .implied (fun _ inner => Toml.assign path value inner) d.current .header
    d.members
  return ⟨members, d.current⟩

end Document

end Toml

end CoordinatorGateway
