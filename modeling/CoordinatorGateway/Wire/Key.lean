import CoordinatorGateway.Text.Basic
import CoordinatorGateway.Wire.Fault

namespace CoordinatorGateway.Varint

def maxBytes : Nat := 10

def writeUpTo : Nat → Nat → Bytes
  | 0, _ => []
  | room + 1, n =>
    if n < 128 then [n.toUInt8] else (n % 128 + 128).toUInt8 :: writeUpTo room (n / 128)

def write (n : Nat) : Bytes := writeUpTo maxBytes n

/-- The number and the rest. A tenth byte can only hold one bit. -/
def readUpTo : Nat → Bytes → Option (Nat × Bytes)
  | 0, _ => none
  | _ + 1, [] => none
  | room + 1, b :: rest =>
    if b.toNat < 128 then
      if room = 0 ∧ 1 < b.toNat then none else some (b.toNat, rest)
    else (readUpTo room rest).map fun (n, rest) => (b.toNat - 128 + 128 * n, rest)

def read (bytes : Bytes) : Option (Nat × Bytes) := readUpTo maxBytes bytes

end CoordinatorGateway.Varint

namespace CoordinatorGateway.Wire

def readVarint (bytes : Bytes) : Except Fault (Nat × Bytes) :=
  match Varint.read bytes with
  | some r => .ok r
  | none => .error (.of .badVarint)

def maxKey : Nat := 4294967295

def writeKey (tag : Nat) (wireType : WireType) : Bytes := Varint.write (8 * tag + wireType.number)

def readKey (bytes : Bytes) : Except Fault ((Nat × WireType) × Bytes) := do
  let (key, rest) ← readVarint bytes
  if maxKey < key then throw (.of (.badKey key))
  match WireType.ofNumber? (key % 8) with
  | none => throw (.of (.badWireType (key % 8)))
  | some wireType =>
    if key / 8 = 0 then throw (.of .zeroTag)
    return ((key / 8, wireType), rest)

def take (length : Nat) (bytes : Bytes) : Except Fault (Bytes × Bytes) :=
  if bytes.length < length then .error (.of .underflow)
  else .ok (bytes.take length, bytes.drop length)

/-- Groups and messages may be nested as deep. -/
def maxDepth : Nat := 100

mutual

def skip : Nat → Nat → Nat → WireType → Bytes → Except Fault Bytes
  | 0, _, _, _, _ => .error (.of .tooDeep)
  | _, 0, _, _, _ => .error (.of .tooDeep)
  | fuel + 1, depth + 1, tag, wireType, bytes =>
    match wireType with
    | .varint => do return (← readVarint bytes).2
    | .thirtyTwoBit => do return (← take 4 bytes).2
    | .sixtyFourBit => do return (← take 8 bytes).2
    | .lengthDelimited => do
      let (length, rest) ← readVarint bytes
      return (← take length rest).2
    | .startGroup => skipGroup fuel depth tag bytes
    | .endGroup => .error (.of .strayEndGroup)

def skipGroup : Nat → Nat → Nat → Bytes → Except Fault Bytes
  | 0, _, _, _ => .error (.of .tooDeep)
  | fuel + 1, depth, tag, bytes => do
    let ((inner, wireType), rest) ← readKey bytes
    if wireType = .endGroup then
      if inner = tag then return rest else throw (.of .strayEndGroup)
    else skipGroup fuel depth tag (← skip fuel depth inner wireType rest)

end

end CoordinatorGateway.Wire
