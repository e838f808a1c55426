import CoordinatorGateway.Wire.Key

namespace CoordinatorGateway.Wire

/-- How the value of a message is written at its tag, where it is not the default, and how a value
that is read there changes the message. -/
structure Field (α : Type) where
  tag : Nat
  name : String
  write : α → Bytes
  /-- Reads one value into the message; messages in it may be nested `depth` deep. -/
  merge : (depth : Nat) → WireType → α → Bytes → Except Fault (α × Bytes)

structure Message (α : Type) where
  name : String
  default : α
  fields : List (Field α)

namespace Message

variable {α : Type}

def write (m : Message α) (a : α) : Bytes := m.fields.flatMap fun f => f.write a

def mergeField (m : Message α) (depth : Nat) (a : α) (bytes : Bytes) :
    Except Fault (α × Bytes) := do
  let ((tag, wireType), rest) ← readKey bytes
  match m.fields.find? fun f => f.tag == tag with
  | none => return (a, ← skip (2 * rest.length + 2) depth tag wireType rest)
  | some f =>
    match f.merge depth wireType a rest with
    | .ok r => return r
    | .error e => throw (e.within m.name f.name)

/-- Reads fields until at most `limit` bytes are left. -/
def mergeUntil (m : Message α) (depth limit : Nat) : Nat → α → Bytes → Except Fault (α × Bytes)
  | 0, a, bytes => .ok (a, bytes)
  | fuel + 1, a, bytes =>
    if bytes.length ≤ limit then .ok (a, bytes)
    else do
      let (a, rest) ← m.mergeField depth a bytes
      mergeUntil m depth limit fuel a rest

def read (m : Message α) (bytes : Bytes) : Except Fault α := do
  return (← m.mergeUntil maxDepth 0 bytes.length m.default bytes).1

/-- Reads a message with its length in front. The fields may not reach beyond that length. -/
def mergeDelimited (m : Message α) (depth : Nat) (a : α) (bytes : Bytes) :
    Except Fault (α × Bytes) := do
  match depth with
  | 0 => throw (.of .tooDeep)
  | depth + 1 =>
    let (length, rest) ← readVarint bytes
    if rest.length < length then throw (.of .underflow)
    let limit := rest.length - length
    let (a, rest) ← m.mergeUntil depth limit rest.length a rest
    if rest.length = limit then return (a, rest) else throw (.of .lengthExceeded)

end Message

def require (expected found : WireType) : Except Fault Unit :=
  if found = expected then .ok () else .error (.of (.wrongWireType found expected))

/-- A field whose values are single numbers. `ofNumber` cuts a number to the field's width. -/
def numberField {α β : Type} [DecidableEq β] (zero : β) (toNumber : β → Nat) (ofNumber : Nat → β)
    (tag : Nat) (name : String) (get : α → β) (set : β → α → α) : Field α where
  tag
  name
  write a := if get a = zero then [] else writeKey tag .varint ++ Varint.write (toNumber (get a))
  merge _ wireType a bytes := do
    require .varint wireType
    let (n, rest) ← readVarint bytes
    return (set (ofNumber n) a, rest)

namespace Field

variable {α : Type}

def uint32 : Nat → String → (α → UInt32) → (UInt32 → α → α) → Field α :=
  numberField 0 UInt32.toNat UInt32.ofNat

def uint64 : Nat → String → (α → UInt64) → (UInt64 → α → α) → Field α :=
  numberField 0 UInt64.toNat UInt64.ofNat

def boolean : Nat → String → (α → Bool) → (Bool → α → α) → Field α :=
  numberField false Bool.toNat fun n => n != 0

/-- The number of a case of an enumeration, extended by its sign to 64 bits. -/
def enumeration : Nat → String → (α → Int32) → (Int32 → α → α) → Field α :=
  numberField 0 (fun n => n.toInt64.toUInt64.toNat) fun n => (UInt32.ofNat n).toInt32

def writeText (tag : Nat) (s : String) : Bytes :=
  let bytes := Bytes.ofText s
  writeKey tag .lengthDelimited ++ Varint.write bytes.length ++ bytes

def readText (wireType : WireType) (bytes : Bytes) : Except Fault (String × Bytes) := do
  require .lengthDelimited wireType
  let (length, rest) ← readVarint bytes
  let (text, rest) ← take length rest
  match Bytes.text? text with
  | some s => return (s, rest)
  | none => throw (.of .badText)

def text (tag : Nat) (name : String) (get : α → String) (set : String → α → α) : Field α where
  tag
  name
  write a := if get a = "" then [] else writeText tag (get a)
  merge _ wireType a bytes := do
    let (s, rest) ← readText wireType bytes
    return (set s a, rest)

def optionalText (tag : Nat) (name : String) (get : α → Option String)
    (set : Option String → α → α) : Field α where
  tag
  name
  write a := match get a with
    | some s => writeText tag s
    | none => []
  merge _ wireType a bytes := do
    let (s, rest) ← readText wireType bytes
    return (set (some s) a, rest)

def texts (tag : Nat) (name : String) (get : α → List String) (set : List String → α → α) :
    Field α where
  tag
  name
  write a := (get a).flatMap (writeText tag)
  merge _ wireType a bytes := do
    let (s, rest) ← readText wireType bytes
    return (set (get a ++ [s]) a, rest)

def writeMessage {β : Type} (inner : Message β) (tag : Nat) (b : β) : Bytes :=
  let bytes := inner.write b
  writeKey tag .lengthDelimited ++ Varint.write bytes.length ++ bytes

/-- Of several occurrences the later ones are merged into the first. -/
def optionalMessage {β : Type} (inner : Message β) (tag : Nat) (name : String)
    (get : α → Option β) (set : Option β → α → α) : Field α where
  tag
  name
  write a := match get a with
    | some b => writeMessage inner tag b
    | none => []
  merge depth wireType a bytes := do
    require .lengthDelimited wireType
    let (b, rest) ← inner.mergeDelimited depth ((get a).getD inner.default) bytes
    return (set (some b) a, rest)

def messages {β : Type} (inner : Message β) (tag : Nat) (name : String) (get : α → List β)
    (set : List β → α → α) : Field α where
  tag
  name
  write a := (get a).flatMap (writeMessage inner tag)
  merge depth wireType a bytes := do
    require .lengthDelimited wireType
    let (b, rest) ← inner.mergeDelimited depth inner.default bytes
    return (set (get a ++ [b]) a, rest)

end Field

end CoordinatorGateway.Wire
