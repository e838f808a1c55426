import CoordinatorGateway.Json.Reader
import CoordinatorGateway.Number.Shortest
import CoordinatorGateway.Unicode.Printable

namespace CoordinatorGateway.Text

def lowerHex (n : Nat) : List Char := Nat.toDigits 16 n

def diagnosticChar (c : Char) : List Char :=
  if c = '"' then ['\\', '"']
  else if c = '\\' then ['\\', '\\']
  else if c = '\n' then ['\\', 'n']
  else if c = '\r' then ['\\', 'r']
  else if c = '\t' then ['\\', 't']
  else if c.toNat = 0 then ['\\', '0']
  else if Unicode.isPrintable c then [c]
  else ['\\', 'u', '\x7b'] ++ lowerHex c.toNat ++ ['\x7d']

def diagnostic (s : String) : String :=
  String.ofList ('"' :: (s.toList.flatMap diagnosticChar ++ ['"']))

end CoordinatorGateway.Text

namespace CoordinatorGateway.Json

inductive FieldKind where
  | text
  | optionalText
  | optionalValue
  deriving DecidableEq, Repr

inductive FieldValue where
  | text (s : String)
  | optionalText (s : Option String)
  | optionalValue (v : Option Json)

structure Schema where
  name : String
  fields : List (String × FieldKind)

/-- The members that were given, the last one first. -/
abbrev Record := List (String × FieldValue)

namespace Record

def text (r : Record) (name : String) : String :=
  match r.lookup name with
  | some (.text s) => s
  | _ => ""

def optionalText (r : Record) (name : String) : Option String :=
  match r.lookup name with
  | some (.optionalText s) => s
  | _ => none

def optionalValue (r : Record) (name : String) : Option Json :=
  match r.lookup name with
  | some (.optionalValue v) => v
  | _ => none

end Record

def JsonNumber.describe : JsonNumber → String
  | .whole n => "integer `" ++ toString n ++ "`"
  | .real x => "floating point `" ++ x.write .json ++ "`"

/-- The fault of finding the value that starts here where `expected` should stand. A scalar is
read to its end, so that a fault inside it comes first. -/
def wrongType (expected : String) (rest : Bytes) : Fault :=
  let found (what : String) (rest : Bytes) := Fault.before (.wrongType what expected) rest
  let orFault {α : Type} (scan : Except Fault α) (f : α → Fault) : Fault :=
    match scan with
    | .ok a => f a
    | .error e => e
  match rest with
  | [] => .inFirst .valueExpected []
  | b :: r =>
    if b = 110 then orFault (word ull r) (found "null")
    else if b = 116 then orFault (word rue r) (found "boolean `true`")
    else if b = 102 then orFault (word alse r) (found "boolean `false`")
    else if b = 45 then orFault (readNumber false r) fun (n, r) => found (JsonNumber.describe n) r
    else if isDigitByte b then
      orFault (readNumber true rest) fun (n, r) => found (JsonNumber.describe n) r
    else if b = 34 then
      orFault (readString r) fun (s, r) => found ("string " ++ Text.diagnostic s) r
    else if b = 91 then found "sequence" rest
    else if b = 123 then found "map" rest
    else .inFirst .valueExpected rest

def readText (rest : Bytes) : Except Fault (String × Bytes) :=
  match skipBlanks rest with
  | [] => .error (.before .endInValue [])
  | b :: r => if b = 34 then readString r else .error (wrongType "a string" (b :: r))

/-- A value of the given kind; `null` is no value where one is optional. -/
def readField (kind : FieldKind) (fuel depth : Nat) (rest : Bytes) :
    Except Fault (FieldValue × Bytes) :=
  match kind with
  | .text => do
    let (s, rest) ← readText rest
    return (.text s, rest)
  | .optionalText =>
    match skipBlanks rest with
    | 110 :: r => do return (.optionalText none, ← word ull r)
    | r => do
      let (s, rest) ← readText r
      return (.optionalText (some s), rest)
  | .optionalValue =>
    match skipBlanks rest with
    | 110 :: r => do return (.optionalValue none, ← word ull r)
    | r => do
      let (v, rest) ← readValue fuel depth r
      return (.optionalValue (some v), rest)

inductive Bracket where
  | square
  | curly
  deriving DecidableEq

mutual

/-- Passes the value that starts here and then closes the `open` brackets, innermost first. No
depth is too deep. -/
def skipValue : Nat → List Bracket → Bytes → Except Fault Bytes
  | 0, _, rest => .error (.before .endInValue rest)
  | fuel + 1, opened, rest =>
    match skipBlanks rest with
    | [] => .error (.before .endInValue [])
    | b :: r =>
      if b = 110 then do skipRest fuel true opened (← word ull r)
      else if b = 116 then do skipRest fuel true opened (← word rue r)
      else if b = 102 then do skipRest fuel true opened (← word alse r)
      else if b = 45 then do skipRest fuel true opened (← skipNumber r)
      else if isDigitByte b then do skipRest fuel true opened (← skipNumber (b :: r))
      else if b = 34 then do skipRest fuel true opened (← skipString r)
      else if b = 91 then skipRest fuel false (.square :: opened) r
      else if b = 123 then skipRest fuel false (.curly :: opened) r
      else .error (.inFirst .valueExpected (b :: r))

/-- Passes what is left of the opened brackets, after a value or after the innermost bracket. -/
def skipRest : Nat → Bool → List Bracket → Bytes → Except Fault Bytes
  | 0, _, _, rest => .error (.before .endInValue rest)
  | _ + 1, _, [], rest => .ok rest
  | fuel + 1, afterValue, bracket :: opened, rest =>
    match skipBlanks rest with
    | [] =>
      .error (.before (if bracket = .square then .endInArray else .endInObject) [])
    | b :: r =>
      if b = 44 ∧ afterValue then skipEntry fuel (bracket :: opened) r
      else if (b = 93 ∧ bracket = .square) ∨ (b = 125 ∧ bracket = .curly) then
        skipRest fuel true opened r
      else if afterValue then
        .error (.inFirst (if bracket = .square then .arrayCommaOrEndExpected
          else .objectCommaOrEndExpected) (b :: r))
      else skipEntry fuel (bracket :: opened) (b :: r)

/-- Passes the next item or member inside the innermost bracket, and what is left after it. -/
def skipEntry : Nat → List Bracket → Bytes → Except Fault Bytes
  | 0, _, rest => .error (.before .endInValue rest)
  | fuel + 1, .curly :: opened, rest =>
    match skipBlanks rest with
    | [] => .error (.before .endInObject [])
    | b :: r =>
      if b = 34 then do
        match skipBlanks (← skipString r) with
        | [] => throw (.before .endInObject [])
        | c :: r' =>
          if c = 58 then skipValue fuel (.curly :: opened) r'
          else throw (.inFirst .colonExpected (c :: r'))
      else .error (.inFirst .keyExpected (b :: r))
  | fuel + 1, opened, rest => skipValue fuel opened rest

end

def readColon (rest : Bytes) : Except Fault Bytes :=
  match skipBlanks rest with
  | [] => .error (.before .endInObject [])
  | b :: r => if b = 58 then .ok r else .error (.inFirst .colonExpected (b :: r))

/-- Where the object is taken to end once a member has been refused. -/
def afterRefusedMember (rest : Bytes) : Bytes :=
  match skipBlanks rest with
  | 125 :: r => r
  | r => r

mutual

def readRecordMembers (schema : Schema) (total depth : Nat) :
    Nat → Bool → Record → Bytes → Except Fault (Record × Bytes)
  | 0, _, _, rest => .error (.before .endInObject rest)
  | fuel + 1, first, acc, rest =>
    match skipBlanks rest with
    | [] => .error (.before .endInObject [])
    | b :: r =>
      if b = 125 then .ok (acc, r)
      else if first then
        if b = 34 then readRecordMember schema total depth fuel acc r
        else .error (.inFirst .keyExpected (b :: r))
      else if b = 44 then
        match skipBlanks r with
        | [] => .error (.before .endInValue [])
        | c :: r' =>
          if c = 34 then readRecordMember schema total depth fuel acc r'
          else if c = 125 then .error (.inFirst .trailingComma (c :: r'))
          else .error (.inFirst .keyExpected (c :: r'))
      else .error (.inFirst .objectCommaOrEndExpected (b :: r))

def readRecordMember (schema : Schema) (total depth : Nat) :
    Nat → Record → Bytes → Except Fault (Record × Bytes)
  | 0, _, rest => .error (.before .endInObject rest)
  | fuel + 1, acc, rest => do
    let (key, r) ← readString rest
    match schema.fields.lookup key with
    | none =>
      let r ← skipValue total [] (← readColon r)
      readRecordMembers schema total depth fuel false acc r
    | some kind =>
      if (acc.lookup key).isSome then
        throw (.before (.duplicateField key) (afterRefusedMember r))
      else
        let (v, r) ← readField kind total depth (← readColon r)
        readRecordMembers schema total depth fuel false ((key, v) :: acc) r

end

def closeArray (rest : Bytes) : Except Fault Bytes :=
  match skipBlanks rest with
  | [] => .error (.before .endInArray [])
  | b :: r =>
    if b = 93 then .ok r
    else if b = 44 then
      match skipBlanks r with
      | 93 :: r' => .error (.inFirst .trailingComma (93 :: r'))
      | r' => .error (.inFirst .trailingCharacters r')
    else .error (.inFirst .trailingCharacters (b :: r))

def readRecordItems (total depth : Nat) :
    List (String × FieldKind) → Bool → Record → Bytes → Except Fault (Record × Bytes)
  | [], _, acc, rest => do return (acc, ← closeArray rest)
  | (name, kind) :: fields, first, acc, rest =>
    match skipBlanks rest with
    | [] => .error (.before .endInArray [])
    | b :: r =>
      if b = 93 then .ok (acc, r)
      else if first then do
        let (v, r) ← readField kind total depth (b :: r)
        readRecordItems total depth fields false ((name, v) :: acc) r
      else if b = 44 then
        match skipBlanks r with
        | [] => .error (.before .endInValue [])
        | c :: r' =>
          if c = 93 then .error (.inFirst .trailingComma (c :: r'))
          else do
            let (v, r) ← readField kind total depth (c :: r')
            readRecordItems total depth fields false ((name, v) :: acc) r
      else .error (.inFirst .arrayCommaOrEndExpected (b :: r))

def Schema.read (schema : Schema) (input : Bytes) : Except Fault Record := do
  let total := 2 * stepBound input
  let (record, rest) ← match skipBlanks input with
    | [] => .error (.before .endInValue [])
    | 91 :: r => readRecordItems total (maxDepth - 1) schema.fields true [] r
    | 123 :: r => readRecordMembers schema total (maxDepth - 1) total true [] r
    | r => .error (wrongType ("struct " ++ schema.name) r)
  finish rest
  return record

end CoordinatorGateway.Json
