import CoordinatorGateway.Text.Basic

namespace CoordinatorGateway.Json

inductive Cause where
  | endInArray
  | endInObject
  | endInString
  | endInValue
  | colonExpected
  | arrayCommaOrEndExpected
  | objectCommaOrEndExpected
  | wordExpected
  | valueExpected
  | badEscape
  | badNumber
  | numberOutOfRange
  | badUtf8
  | controlCharacter
  | keyExpected
  | loneSurrogate
  | unfinishedSurrogatePair
  | trailingComma
  | trailingCharacters
  | tooDeep
  | duplicateField (name : String)
  | wrongType (found expected : String)
  deriving DecidableEq, Repr

def Cause.message : Cause → String
  | .endInArray => "EOF while parsing a list"
  | .endInObject => "EOF while parsing an object"
  | .endInString => "EOF while parsing a string"
  | .endInValue => "EOF while parsing a value"
  | .colonExpected => "expected `:`"
  | .arrayCommaOrEndExpected => "expected `,` or `]`"
  | .objectCommaOrEndExpected => "expected `,` or `\x7d`"
  | .wordExpected => "expected ident"
  | .valueExpected => "expected value"
  | .badEscape => "invalid escape"
  | .badNumber => "invalid number"
  | .numberOutOfRange => "number out of range"
  | .badUtf8 => "invalid unicode code point"
  | .controlCharacter => "control character (\\u0000-\\u001F) found while parsing a string"
  | .keyExpected => "key must be a string"
  | .loneSurrogate => "lone leading surrogate in hex escape"
  | .unfinishedSurrogatePair => "unexpected end of hex escape"
  | .trailingComma => "trailing comma"
  | .trailingCharacters => "trailing characters"
  | .tooDeep => "recursion limit exceeded"
  | .duplicateField name => "duplicate field `" ++ name ++ "`"
  | .wrongType found expected => "invalid type: " ++ found ++ ", expected " ++ expected

structure Fault where
  cause : Cause
  unread : Nat
  deriving DecidableEq, Repr

namespace Fault

/-- The fault lies just before the rest. -/
def before (cause : Cause) (rest : Bytes) : Fault := ⟨cause, rest.length⟩

/-- The fault lies in the first byte of the rest, if there is one. -/
def inFirst (cause : Cause) (rest : Bytes) : Fault := ⟨cause, rest.length - 1⟩

def line (input : Bytes) (f : Fault) : Nat := 1 + (input.take (input.length - f.unread)).count 10

def column (input : Bytes) (f : Fault) : Nat :=
  ((input.take (input.length - f.unread)).reverse.takeWhile (· != 10)).length

def message (input : Bytes) (f : Fault) : String :=
  f.cause.message ++ " at line " ++ toString (f.line input) ++ " column " ++
    toString (f.column input)

end Fault

end CoordinatorGateway.Json
