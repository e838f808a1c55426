import CoordinatorGateway.Number.Numeral
import CoordinatorGateway.Toml.Table
import CoordinatorGateway.Toml.Text

namespace CoordinatorGateway.Toml

/-- Digits with single underscores between them, read on from `acc`, last digit first. -/
def takeDigits (isDigit : Char → Bool) (acc : List Char) : List Char → List Char × List Char
  | '_' :: c :: rest =>
    if !acc.isEmpty && isDigit c then takeDigits isDigit (c :: acc) rest
    else (acc.reverse, '_' :: c :: rest)
  | c :: rest => if isDigit c then takeDigits isDigit (c :: acc) rest else (acc.reverse, c :: rest)
  | [] => (acc.reverse, [])

def digits? (isDigit : Char → Bool) (cs : List Char) : Option (List Char × List Char) :=
  match takeDigits isDigit [] cs with
  | ([], _) => none
  | r => some r

/-- A row of decimal digits that starts with a zero only if that is all of it. -/
def decimal? (cs : List Char) : Option (List Char × List Char) :=
  match cs with
  | '0' :: rest => some (['0'], rest)
  | _ => digits? Char.isDigit cs

def maxInteger : Int := 9223372036854775807

def integerOf (negative : Bool) (base : Nat) (ds : List Char) : Option Toml :=
  let n := ds.foldl (fun n d => base * n + (hexDigit? d).getD 0) 0
  let n : Int := if negative then -n else n
  if -maxInteger - 1 ≤ n ∧ n ≤ maxInteger then some (.integer n) else none

def based? (base : Nat) (isDigit : Char → Bool) (cs : List Char) : Option (Toml × List Char) := do
  let (ds, rest) ← digits? isDigit cs
  return (← integerOf false base ds, rest)

def integer? (cs : List Char) : Option (Toml × List Char) :=
  match cs with
  | '0' :: 'x' :: rest => based? 16 (fun c => (hexDigit? c).isSome) rest
  | '0' :: 'o' :: rest => based? 8 (fun c => '0' ≤ c && c ≤ '7') rest
  | '0' :: 'b' :: rest => based? 2 (fun c => c == '0' || c == '1') rest
  | _ => do
    let (negative, cs) := Binary64.splitSign cs
    let (ds, rest) ← decimal? cs
    return (← integerOf negative 10 ds, rest)

def fraction? : List Char → Option (List Char × List Char)
  | '.' :: rest => digits? Char.isDigit rest
  | _ => none

def exponent? : List Char → Option (Int × List Char)
  | c :: rest =>
    if c == 'e' || c == 'E' then do
      let (negative, rest) := Binary64.splitSign rest
      let (ds, rest) ← digits? Char.isDigit rest
      return (if negative then -(Numeral.value ds : Int) else Numeral.value ds, rest)
    else none
  | [] => none

/-- A decimal with a fraction, an exponent or both. It must not be too large for a double. -/
def decimalFloat? (negative : Bool) (cs : List Char) : Option (Toml × List Char) := do
  let (whole, rest) ← decimal? cs
  let (part, exponent, rest) ← match fraction? rest with
    | some (part, rest) =>
      match exponent? rest with
      | some (e, rest) => some (part, e, rest)
      | none => some (part, 0, rest)
    | none => (exponent? rest).map fun (e, rest) => ([], e, rest)
  let x := Binary64.ofDecimal negative (Numeral.value (whole ++ part)) (exponent - part.length)
  if x = .infinite false then none else return (.float x, rest)

def float? (cs : List Char) : Option (Toml × List Char) :=
  let (negative, cs) := Binary64.splitSign cs
  match cs with
  | 'i' :: 'n' :: 'f' :: rest => some (.float (.infinite negative), rest)
  | 'n' :: 'a' :: 'n' :: rest => some (.float .nan, rest)
  | _ => decimalFloat? negative cs

def twoDigits? (low high : Nat) : List Char → Option (Nat × List Char)
  | a :: b :: rest =>
    if a.isDigit && b.isDigit then
      let n := Numeral.value [a, b]
      if low ≤ n ∧ n ≤ high then some (n, rest) else none
    else none
  | _ => none

def char? (c : Char) : List Char → Option (List Char)
  | d :: rest => if d = c then some rest else none
  | [] => none

def isLeapYear (year : Nat) : Bool := year % 4 == 0 && (year % 100 != 0 || year % 400 == 0)

def daysIn (year month : Nat) : Nat :=
  if month = 2 then if isLeapYear year then 29 else 28
  else if month = 4 ∨ month = 6 ∨ month = 9 ∨ month = 11 then 30
  else 31

def date? (cs : List Char) : Option (List Char) := do
  let year := cs.take 4
  if year.length < 4 ∨ !year.all Char.isDigit then none
  else
    let (month, rest) ← twoDigits? 1 12 (← char? '-' (cs.drop 4))
    let (day, rest) ← twoDigits? 1 31 (← char? '-' rest)
    if day ≤ daysIn (Numeral.value year) month then some rest else none

def dropSecondFraction (cs : List Char) : List Char :=
  match cs with
  | '.' :: d :: rest => if d.isDigit then rest.dropWhile Char.isDigit else cs
  | _ => cs

def timeOfDay? (cs : List Char) : Option (List Char) := do
  let (_, rest) ← twoDigits? 0 23 cs
  let (_, rest) ← twoDigits? 0 59 (← char? ':' rest)
  let (_, rest) ← twoDigits? 0 60 (← char? ':' rest)
  return dropSecondFraction rest

def offset? : List Char → Option (List Char)
  | c :: rest =>
    if c == 'Z' || c == 'z' then some rest
    else if c == '+' || c == '-' then do
      let (_, rest) ← twoDigits? 0 23 rest
      let (_, rest) ← twoDigits? 0 59 (← char? ':' rest)
      return rest
    else none
  | [] => none

def dropTime (cs : List Char) : List Char :=
  match cs with
  | c :: rest =>
    if c == 'T' || c == 't' || c == ' ' then
      match timeOfDay? rest with
      | some rest => (offset? rest).getD rest
      | none => cs
    else cs
  | [] => cs

def moment? (cs : List Char) : Option (Toml × List Char) :=
  match date? cs with
  | some rest => some (.moment, dropTime rest)
  | none => (timeOfDay? cs).map fun rest => (.moment, rest)

def scalarValue? (cs : List Char) : Option (Toml × List Char) :=
  match cs with
  | 't' :: 'r' :: 'u' :: 'e' :: rest => some (.boolean true, rest)
  | 'f' :: 'a' :: 'l' :: 's' :: 'e' :: rest => some (.boolean false, rest)
  | '"' :: _ | '\'' :: _ => (readString cs).map fun (s, rest) => (.string s, rest)
  | _ => ((moment? cs).or (float? cs)).or (integer? cs)

end CoordinatorGateway.Toml
