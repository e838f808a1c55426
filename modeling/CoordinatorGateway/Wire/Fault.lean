namespace CoordinatorGateway.Wire

inductive WireType where
  | varint
  | sixtyFourBit
  | lengthDelimited
  | startGroup
  | endGroup
  | thirtyTwoBit
  deriving DecidableEq, Repr

namespace WireType

def number : WireType → Nat
  | .varint => 0
  | .sixtyFourBit => 1
  | .lengthDelimited => 2
  | .startGroup => 3
  | .endGroup => 4
  | .thirtyTwoBit => 5

def ofNumber? : Nat → Option WireType
  | 0 => some .varint
  | 1 => some .sixtyFourBit
  | 2 => some .lengthDelimited
  | 3 => some .startGroup
  | 4 => some .endGroup
  | 5 => some .thirtyTwoBit
  | _ => none

def label : WireType → String
  | .varint => "Varint"
  | .sixtyFourBit => "SixtyFourBit"
  | .lengthDelimited => "LengthDelimited"
  | .startGroup => "StartGroup"
  | .endGroup => "EndGroup"
  | .thirtyTwoBit => "ThirtyTwoBit"

end WireType

inductive Cause where
  | badVarint
  | badKey (key : Nat)
  | badWireType (number : Nat)
  | zeroTag
  | wrongWireType (found expected : WireType)
  | underflow
  | lengthExceeded
  | badText
  | strayEndGroup
  | tooDeep
  deriving DecidableEq, Repr

def Cause.message : Cause → String
  | .badVarint => "invalid varint"
  | .badKey key => "invalid key value: " ++ toString key
  | .badWireType number => "invalid wire type value: " ++ toString number
  | .zeroTag => "invalid tag value: 0"
  | .wrongWireType found expected =>
    "invalid wire type: " ++ found.label ++ " (expected " ++ expected.label ++ ")"
  | .underflow => "buffer underflow"
  | .lengthExceeded => "delimited length exceeded"
  | .badText => "invalid string value: data is not UTF-8 encoded"
  | .strayEndGroup => "unexpected end group tag"
  | .tooDeep => "recursion limit reached"

structure Fault where
  cause : Cause
  /-- Names of messages and fields. -/
  path : List (String × String)
  deriving DecidableEq, Repr

namespace Fault

def of (cause : Cause) : Fault := ⟨cause, []⟩

def within (message field : String) (f : Fault) : Fault :=
  { f with path := f.path ++ [(message, field)] }

def message (f : Fault) : String :=
  "failed to decode Protobuf message: " ++
    String.join (f.path.map fun (message, field) => message ++ "." ++ field ++ ": ") ++
    f.cause.message

end Fault

end CoordinatorGateway.Wire
