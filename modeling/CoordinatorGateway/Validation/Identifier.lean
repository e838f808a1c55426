import CoordinatorGateway.Failure

namespace CoordinatorGateway.Identifier

def maxLength : Nat := 128

def reserved : List String := ["undefined", "null", "true", "false"]

def isAllowed (c : Char) : Bool := c.isAlphanum || c == '_' || c == '-'

inductive Fault where
  | empty
  | tooLong
  | badCharacter
  | reserved
  deriving DecidableEq, Repr

/-- Of several faults the first in the order of the constructors. The length is that of the
UTF-8 text. -/
def fault? (id : String) : Option Fault :=
  if id.isEmpty then some .empty
  else if maxLength < id.utf8ByteSize then some .tooLong
  else if !id.toList.all isAllowed then some .badCharacter
  else if reserved.contains id then some .reserved
  else none

def Fault.message (label id : String) : Fault → String
  | .empty => label ++ " must not be empty"
  | .tooLong => label ++ " must be at most " ++ toString maxLength ++ " characters"
  | .badCharacter => label ++ " may only contain letters, digits, '_' and '-'"
  | .reserved => label ++ " '" ++ id ++ "' is reserved"

/-- The label says in the error text what kind of name it is. -/
def check (label id : String) : Except Failure Unit :=
  match fault? id with
  | none => .ok ()
  | some f => .error (.invalidArgument (f.message label id))

end CoordinatorGateway.Identifier
