import CoordinatorGateway.Text.Basic

namespace CoordinatorGateway.Percent

def byte? (high low : UInt8) : Option UInt8 :=
  match hexValue? high, hexValue? low with
  | some h, some l => some (.ofNat (16 * h + l))
  | _, _ => none

def decodeBytes : Bytes → Bytes
  | 37 :: high :: low :: rest =>
    match byte? high low with
    | some b => b :: decodeBytes rest
    | none => 37 :: decodeBytes (high :: low :: rest)
  | b :: rest => b :: decodeBytes rest
  | [] => []

/-- The text, unless the decoded bytes are not UTF-8. -/
def decode? (text : String) : Option String :=
  Bytes.text? (decodeBytes (Bytes.ofText text))

end CoordinatorGateway.Percent

namespace CoordinatorGateway.Query

/-- The name and the value of a pair; a pair without `=` has an empty value. -/
def splitPair (pair : String) : String × String :=
  match Text.splitOnce '=' pair.toList with
  | some (name, value) => (String.ofList name, String.ofList value)
  | none => (pair, "")

def plusToSpace (s : String) : String := s.map fun c => if c = '+' then ' ' else c

/-- The first readable value that the query gives for the name. Names are taken as they are. -/
def value? (query name : String) : Option String :=
  (Text.splitAt '&' query).findSome? fun pair =>
    let (key, value) := splitPair pair
    if key = name then Percent.decode? (plusToSpace value) else none

def affirmative : List String := ["", "1", "true", "yes"]

def flag (query name : String) : Bool :=
  match value? query name with
  | some value => affirmative.contains (Text.lowerAscii value)
  | none => false

end CoordinatorGateway.Query
