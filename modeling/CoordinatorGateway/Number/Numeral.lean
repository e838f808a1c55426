import CoordinatorGateway.Number.Binary64

namespace CoordinatorGateway

inductive NumeralError where
  | empty
  | invalidDigit
  | tooLarge
  deriving DecidableEq, Repr

def NumeralError.message : NumeralError → String
  | .empty => "cannot parse integer from empty string"
  | .invalidDigit => "invalid digit found in string"
  | .tooLarge => "number too large to fit in target type"

namespace Numeral

def digitValue? (c : Char) : Option Nat :=
  if c.isDigit then some (c.toNat - '0'.toNat) else none

def valueFrom (acc : Nat) (ds : List Char) : Nat :=
  ds.foldl (fun n d => 10 * n + (d.toNat - '0'.toNat)) acc

def value (ds : List Char) : Nat := valueFrom 0 ds

/-- Digits are taken from the left, and the first fault ends the reading: a character that is no
digit, or a value above the limit. -/
def readDigits (limit : Nat) : Nat → List Char → Except NumeralError Nat
  | acc, [] => .ok acc
  | acc, c :: cs =>
    match digitValue? c with
    | none => .error .invalidDigit
    | some d =>
      if limit < 10 * acc + d then .error .tooLarge else readDigits limit (10 * acc + d) cs

/-- One leading plus sign is allowed before the digits. -/
def readUnsigned (limit : Nat) (s : String) : Except NumeralError Nat :=
  match s.toList with
  | [] => .error .empty
  | ['+'] => .error .invalidDigit
  | '+' :: cs => readDigits limit 0 cs
  | cs => readDigits limit 0 cs

end Numeral

namespace Binary64

def splitSign : List Char → Bool × List Char
  | '-' :: cs => (true, cs)
  | '+' :: cs => (false, cs)
  | cs => (false, cs)

def readExponent? : List Char → Option Int
  | [] => some 0
  | c :: cs =>
    if c == 'e' || c == 'E' then
      let (negative, ds) := splitSign cs
      if ds.isEmpty || !ds.all Char.isDigit then none
      else some (if negative then -(Numeral.value ds : Int) else Numeral.value ds)
    else none

/-- Digits, at least one, with at most one point among them, and perhaps an exponent. -/
def readDecimal? (negative : Bool) (cs : List Char) : Option Binary64 :=
  let whole := cs.takeWhile Char.isDigit
  let rest := cs.dropWhile Char.isDigit
  let (part, rest) := match rest with
    | '.' :: r => (r.takeWhile Char.isDigit, r.dropWhile Char.isDigit)
    | r => ([], r)
  if whole.isEmpty && part.isEmpty then none else
    (readExponent? rest).map fun e =>
      ofDecimal negative (Numeral.value (whole ++ part)) (e - part.length)

/-- A double as a decimal, or the words `inf`, `infinity` and `nan` in any case; each may have
a sign. -/
def read? (s : String) : Option Binary64 :=
  let (negative, cs) := splitSign s.toList
  match readDecimal? negative cs with
  | some x => some x
  | none =>
    let word := String.ofList (cs.map Char.toLower)
    if word == "nan" then some .nan
    else if word == "inf" || word == "infinity" then some (.infinite negative)
    else none

end Binary64

end CoordinatorGateway
