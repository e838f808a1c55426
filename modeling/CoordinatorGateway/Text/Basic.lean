namespace CoordinatorGateway.Text

/-- The pieces between separators; there is one more piece than separators. -/
def splitWhen (isSeparator : Char → Bool) : List Char → List (List Char)
  | [] => [[]]
  | c :: cs =>
    if isSeparator c then [] :: splitWhen isSeparator cs
    else match splitWhen isSeparator cs with
      | [] => [[c]]
      | piece :: pieces => (c :: piece) :: pieces

def splitAt (separator : Char) (s : String) : List String :=
  (splitWhen (· == separator) s.toList).map String.ofList

def splitOnce (separator : Char) : List Char → Option (List Char × List Char)
  | [] => none
  | c :: cs =>
    if c = separator then some ([], cs)
    else (splitOnce separator cs).map fun (before, after) => (c :: before, after)

def occursIn (needle : List Char) : List Char → Bool
  | [] => needle.isEmpty
  | c :: cs => needle.isPrefixOf (c :: cs) || occursIn needle cs

def stripStart? (start : List Char) (cs : List Char) : Option (List Char) :=
  if start.isPrefixOf cs then some (cs.drop start.length) else none

def stripEnd? (ending : List Char) (cs : List Char) : Option (List Char) :=
  if ending.isSuffixOf cs then some (cs.take (cs.length - ending.length)) else none

def lowerAscii (s : String) : String := String.ofList (s.toList.map Char.toLower)

end CoordinatorGateway.Text

namespace CoordinatorGateway

abbrev Bytes := List UInt8

def Bytes.ofText (s : String) : Bytes := s.toUTF8.data.toList

/-- The text, unless the bytes are not well-formed UTF-8. -/
def Bytes.text? (b : Bytes) : Option String := String.fromUTF8? ⟨b.toArray⟩

def hexValue? (b : UInt8) : Option Nat :=
  if 48 ≤ b && b ≤ 57 then some (b.toNat - 48)
  else if 65 ≤ b && b ≤ 70 then some (b.toNat - 55)
  else if 97 ≤ b && b ≤ 102 then some (b.toNat - 87)
  else none

end CoordinatorGateway
