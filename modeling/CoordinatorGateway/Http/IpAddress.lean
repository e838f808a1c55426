import CoordinatorGateway.Text.Basic

namespace CoordinatorGateway

inductive IpAddress where
  /-- Four numbers below 256. -/
  | v4 (octets : List Nat)
  /-- Eight numbers below 65536. -/
  | v6 (groups : List Nat)
  deriving DecidableEq, Repr

namespace IpAddress

def octetsText (octets : List Nat) : String := ".".intercalate (octets.map toString)

def groupText (n : Nat) : String := String.ofList (Nat.toDigits 16 n)

def groupsText (groups : List Nat) : String := ":".intercalate (groups.map groupText)

/-- The start and the length of the longest row of zeros, the first one of several. -/
def longestZeros (groups : List Nat) : Nat × Nat :=
  (List.range groups.length).foldl (fun best start =>
    let length := ((groups.drop start).takeWhile (· == 0)).length
    if best.2 < length then (start, length) else best) (0, 0)

def text : IpAddress → String
  | .v4 octets => octetsText octets
  | .v6 groups =>
    match groups with
    | [0, 0, 0, 0, 0, 65535, high, low] =>
      "::ffff:" ++ octetsText [high / 256, high % 256, low / 256, low % 256]
    | _ =>
      let (start, length) := longestZeros groups
      if length < 2 then groupsText groups
      else groupsText (groups.take start) ++ "::" ++ groupsText (groups.drop (start + length))

def readOctet? (cs : List Char) : Option Nat :=
  if cs.isEmpty || 3 < cs.length || !cs.all Char.isDigit || (cs.head? == some '0' && 1 < cs.length)
  then none
  else
    let n := cs.foldl (fun n c => 10 * n + (c.toNat - '0'.toNat)) 0
    if n < 256 then some n else none

def readOctets? (cs : List Char) : Option (List Nat) :=
  match (Text.splitWhen (· == '.') cs).mapM readOctet? with
  | some [a, b, c, d] => some [a, b, c, d]
  | _ => none

def readGroup? (cs : List Char) : Option Nat :=
  if cs.isEmpty || 4 < cs.length then none
  else (cs.mapM fun c => if c.toNat < 128 then hexValue? c.toUInt8 else none).map
    (·.foldl (fun n d => 16 * n + d) 0)

/-- Groups between colons. The last two may be spelled as four dotted numbers. -/
def readPieces? : List (List Char) → Option (List Nat)
  | [] => some []
  | [last] =>
    match readGroup? last with
    | some g => some [g]
    | none => (readOctets? last).bind fun
      | [a, b, c, d] => some [256 * a + b, 256 * c + d]
      | _ => none
  | piece :: rest => do return (← readGroup? piece) :: (← readPieces? rest)

def readGroups? (cs : List Char) : Option (List Nat) :=
  if cs.isEmpty then some [] else readPieces? (Text.splitWhen (· == ':') cs)

def splitGap : List Char → Option (List Char × List Char)
  | ':' :: ':' :: rest => some ([], rest)
  | [] => none
  | c :: rest => (splitGap rest).map fun (before, after) => (c :: before, after)

def readV6? (cs : List Char) : Option (List Nat) :=
  match splitGap cs with
  | none => (readGroups? cs).filter fun groups => groups.length == 8
  | some (before, after) => do
    let before ← readGroups? before
    let after ← readGroups? after
    if before.length + after.length < 8 then
      some (before ++ List.replicate (8 - before.length - after.length) 0 ++ after)
    else none

def read? (cs : List Char) : Option IpAddress :=
  match readOctets? cs with
  | some octets => some (.v4 octets)
  | none => (readV6? cs).map .v6

/-- The address in front of the port, in brackets where it has colons of its own. -/
def ofPeer? (peer : String) : Option IpAddress :=
  match peer.toList with
  | '[' :: rest => (readV6? (rest.takeWhile (· != ']'))).map .v6
  | cs => (readOctets? (cs.takeWhile (· != ':'))).map .v4

end IpAddress

end CoordinatorGateway
