import CoordinatorGateway.Failure
import CoordinatorGateway.Text.Basic

namespace CoordinatorGateway.Location

inductive Component where
  | root
  | name (s : String)
  deriving DecidableEq, Repr

inductive Part where
  | root
  | parent
  | name (s : String)
  deriving DecidableEq, Repr

def isAbsolute (path : String) : Bool := path.toList.head? == some '/'

/-- The parts that matter: the root, names and `..`, but no `.` and no empty part. -/
def parts (path : String) : List Part :=
  (if isAbsolute path then [Part.root] else []) ++
    (Text.splitAt '/' path).filterMap fun s =>
      if s = "" ∨ s = "." then none else if s = ".." then some .parent else some (.name s)

/-- The components without the last one; the root stays. -/
def dropName (out : List Component) : List Component :=
  if out.getLast? = some .root then out else out.dropLast

def walk (out : List Component) : Part → List Component
  | .root => [.root]
  | .parent => dropName out
  | .name s => out ++ [.name s]

/-- A relative path is taken from `base`, or from the root when there is none. -/
def resolve (base : Option String) (path : String) : List Component :=
  let start := if isAbsolute path then [] else parts (base.getD "/")
  (start ++ parts path).foldl walk []

inductive Purpose where
  | input
  | program
  deriving DecidableEq, Repr

def Purpose.label : Purpose → String
  | .input => "input_path"
  | .program => "elf_path"

structure Policy where
  /-- When not empty, inputs must lie under one of these. -/
  inputRoots : List String
  /-- Where relative paths start. -/
  base : Option String
  deriving DecidableEq, Repr

def maxLength : Nat := 512

def isAllowed (c : Char) : Bool :=
  c.isAlphanum || c == '/' || c == '.' || c == '_' || c == '-'

def Policy.admits (policy : Policy) (path : String) : Bool :=
  policy.inputRoots.any fun root =>
    (resolve policy.base root).isPrefixOf (resolve policy.base path)

inductive Fault where
  | empty
  | tooLong
  | dots
  | badCharacter
  | outside
  deriving DecidableEq, Repr

def hasDots (path : String) : Bool :=
  Text.occursIn ['.', '.'] path.toList || Text.occursIn ['/', '/'] path.toList

/-- Of several faults the first in the order of the constructors. -/
def fault? (path : String) (purpose : Purpose) (policy : Policy) : Option Fault :=
  if path.isEmpty then some .empty
  else if maxLength < path.utf8ByteSize then some .tooLong
  else if hasDots path then some .dots
  else if !path.toList.all isAllowed then some .badCharacter
  else if purpose = .input ∧ policy.inputRoots ≠ [] ∧ policy.admits path = false then some .outside
  else none

def Fault.message (purpose : Purpose) : Fault → String
  | .empty => purpose.label ++ " must not be empty"
  | .tooLong => purpose.label ++ " must be at most " ++ toString maxLength ++ " characters"
  | .dots => purpose.label ++ " must not contain '..' or '//'"
  | .badCharacter => purpose.label ++ " contains characters outside [A-Za-z0-9/._-]"
  | .outside => purpose.label ++ " is outside the allowed input directories"

def check (path : String) (purpose : Purpose) (policy : Policy) : Except Failure Unit :=
  match fault? path purpose policy with
  | none => .ok ()
  | some f => .error (.invalidArgument (f.message purpose))

end CoordinatorGateway.Location
