import CoordinatorGateway.Json.Fault
import CoordinatorGateway.Json.Value

namespace CoordinatorGateway.Json

def isBlankByte (b : UInt8) : Bool := b == 32 || b == 10 || b == 9 || b == 13

def skipBlanks (rest : Bytes) : Bytes := rest.dropWhile isBlankByte

def word : List UInt8 → Bytes → Except Fault Bytes
  | [], rest => .ok rest
  | _ :: _, [] => .error (.before .endInValue [])
  | w :: ws, b :: rest => if b = w then word ws rest else .error (.before .wordExpected rest)

def ull : List UInt8 := [117, 108, 108]

def rue : List UInt8 := [114, 117, 101]

def alse : List UInt8 := [97, 108, 115, 101]

def hex4? (a b c d : UInt8) : Option Nat := do
  let a ← hexValue? a
  let b ← hexValue? b
  let c ← hexValue? c
  let d ← hexValue? d
  return ((a * 16 + b) * 16 + c) * 16 + d

def simpleEscape? (b : UInt8) : Option UInt8 :=
  if b = 34 ∨ b = 92 ∨ b = 47 then some b
  else if b = 98 then some 8
  else if b = 102 then some 12
  else if b = 110 then some 10
  else if b = 114 then some 13
  else if b = 116 then some 9
  else none

def codePointBytes (n : Nat) : Bytes := Bytes.ofText (String.singleton (Char.ofNat n))

def isHighSurrogate (n : Nat) : Bool := 0xD800 ≤ n && n ≤ 0xDBFF

def isLowSurrogate (n : Nat) : Bool := 0xDC00 ≤ n && n ≤ 0xDFFF

/-- The bytes of a string after its opening quote, `acc` being those before in reverse. -/
def stringBody (acc : Bytes) : Bytes → Except Fault (Bytes × Bytes)
  | [] => .error (.before .endInString [])
  | b :: rest =>
    if b = 34 then .ok (acc.reverse, rest)
    else if b = 92 then
      match rest with
      | [] => .error (.before .endInString [])
      | 117 :: h1 :: h2 :: h3 :: h4 :: rest =>
        match hex4? h1 h2 h3 h4 with
        | none => .error (.before .badEscape rest)
        | some n =>
          if isLowSurrogate n then .error (.before .loneSurrogate rest)
          else if !isHighSurrogate n then stringBody ((codePointBytes n).reverse ++ acc) rest
          else match rest with
            | [] => .error (.before .endInString [])
            | [92] => .error (.before .endInString [])
            | 92 :: 117 :: k1 :: k2 :: k3 :: k4 :: rest =>
              match hex4? k1 k2 k3 k4 with
              | none => .error (.before .badEscape rest)
              | some k =>
                if isLowSurrogate k then
                  let c := (n - 0xD800) * 1024 + (k - 0xDC00) + 0x10000
                  stringBody ((codePointBytes c).reverse ++ acc) rest
                else .error (.before .loneSurrogate rest)
            | 92 :: 117 :: _ => .error (.before .endInString [])
            | 92 :: _ :: rest => .error (.before .unfinishedSurrogatePair rest)
            | _ :: rest => .error (.before .unfinishedSurrogatePair rest)
      | 117 :: _ => .error (.before .endInString [])
      | e :: rest =>
        match simpleEscape? e with
        | some x => stringBody (x :: acc) rest
        | none => .error (.before .badEscape rest)
    else if b < 32 then .error (.before .controlCharacter rest)
    else stringBody (b :: acc) rest

/-- A string after its opening quote. Bytes that spell no text are found out at the closing quote,
before it is read. -/
def readString (rest : Bytes) : Except Fault (String × Bytes) := do
  let (bytes, rest) ← stringBody [] rest
  match Bytes.text? bytes with
  | some s => return (s, rest)
  | none => throw (.before .badUtf8 (34 :: rest))

/-- Passes a string after its opening quote; escapes need not name characters, and a control
character is refused before it is read. -/
def skipString : Bytes → Except Fault Bytes
  | [] => .error (.before .endInString [])
  | b :: rest =>
    if b = 34 then .ok rest
    else if b = 92 then
      match rest with
      | [] => .error (.before .endInString [])
      | 117 :: h1 :: h2 :: h3 :: h4 :: rest =>
        if (hex4? h1 h2 h3 h4).isSome then skipString rest
        else .error (.before .badEscape rest)
      | 117 :: _ => .error (.before .endInString [])
      | e :: rest =>
        if (simpleEscape? e).isSome then skipString rest else .error (.before .badEscape rest)
    else if b < 32 then .error (.before .controlCharacter (b :: rest))
    else skipString rest

def isDigitByte (b : UInt8) : Bool := 48 ≤ b && b ≤ 57

def startsWithDigit (rest : Bytes) : Bool := rest.head?.any isDigitByte

def skipDigits (rest : Bytes) : Bytes := rest.dropWhile isDigitByte

def maxWhole : Nat := twoPow 64 - 1

def maxPower : Nat := twoPow 31 - 1

def powerOfTen (k : Nat) : Binary64 := .ofDecimal false 1 k

/-- The product `x · 10^exponent`, in steps of at most 308 powers of ten. -/
def scale (rest : Bytes) : Nat → Binary64 → Int → Except Fault Binary64
  | 0, x, _ => .ok x
  | steps + 1, x, exponent =>
    if exponent.natAbs ≤ 308 then
      if 0 ≤ exponent then
        let y := x.mul (powerOfTen exponent.natAbs)
        if y.isFinite then .ok y else .error (.before .numberOutOfRange rest)
      else .ok (x.div (powerOfTen exponent.natAbs))
    else if x.isZero then .ok x
    else if 0 ≤ exponent then .error (.before .numberOutOfRange rest)
    else scale rest steps (x.div (powerOfTen 308)) (exponent + 308)

def realOfParts (positive : Bool) (digits : Nat) (exponent : Int) (rest : Bytes) :
    Except Fault (JsonNumber × Bytes) := do
  let x ← scale rest 4 (.ofInt digits) exponent
  return (.real (if positive then x else x.neg), rest)

def exponentDigits (positive : Bool) (digits : Nat) (start : Int) (positivePower : Bool) :
    Nat → Bytes → Except Fault (JsonNumber × Bytes)
  | power, [] =>
    realOfParts positive digits (if positivePower then start + power else start - power) []
  | power, b :: rest =>
    if isDigitByte b then
      let power' := power * 10 + (b.toNat - 48)
      if maxPower < power' then
        if digits ≠ 0 ∧ positivePower then .error (.before .numberOutOfRange rest)
        else .ok (.real (.zero (!positive)), skipDigits rest)
      else exponentDigits positive digits start positivePower power' rest
    else
      realOfParts positive digits (if positivePower then start + power else start - power)
        (b :: rest)

def exponent (positive : Bool) (digits : Nat) (start : Int) (rest : Bytes) :
    Except Fault (JsonNumber × Bytes) :=
  let (positivePower, rest) := match rest with
    | 43 :: r => (true, r)
    | 45 :: r => (false, r)
    | r => (true, r)
  match rest with
  | [] => .error (.before .endInValue [])
  | b :: rest =>
    if isDigitByte b then exponentDigits positive digits start positivePower (b.toNat - 48) rest
    else .error (.before .badNumber rest)

def startsExponent (rest : Bytes) : Bool := rest.head?.any fun b => b == 101 || b == 69

def realEnd (positive : Bool) (digits : Nat) (power : Int) (rest : Bytes) :
    Except Fault (JsonNumber × Bytes) :=
  if startsExponent rest then exponent positive digits power rest.tail
  else realOfParts positive digits power rest

/-- The digits after the point, `places` of which have been read. -/
def fraction (positive : Bool) (start : Int) : Nat → Nat → Bytes → Except Fault (JsonNumber × Bytes)
  | digits, places, [] =>
    if places = 0 then .error (.inFirst .endInValue [])
    else realOfParts positive digits (start - places) []
  | digits, places, b :: rest =>
    if isDigitByte b then
      let digits' := digits * 10 + (b.toNat - 48)
      if maxWhole < digits' then realEnd positive digits (start - places) (skipDigits rest)
      else fraction positive start digits' (places + 1) rest
    else if places = 0 then .error (.inFirst .badNumber (b :: rest))
    else realEnd positive digits (start - places) (b :: rest)

def afterLongWhole (positive : Bool) (digits : Nat) (power : Nat) (rest : Bytes) :
    Except Fault (JsonNumber × Bytes) :=
  match rest with
  | 46 :: r => fraction positive power digits 0 r
  | r => realEnd positive digits power r

/-- The end of an integer that fits 64 bits. The negative of zero is a double, and so is what
lies below the least signed 64-bit integer. -/
def afterWhole (positive : Bool) (digits : Nat) (rest : Bytes) :
    Except Fault (JsonNumber × Bytes) :=
  match rest with
  | 46 :: r => fraction positive 0 digits 0 r
  | r =>
    if startsExponent r then exponent positive digits 0 r.tail
    else if positive then .ok (.whole digits, r)
    else if digits = 0 ∨ twoPow 63 < digits then .ok (.real (Binary64.ofInt digits).neg, r)
    else .ok (.whole (-digits), r)

/-- Digits are kept as a 64-bit integer for as long as they fit. Those after that only count as
powers of ten. -/
def wholeDigits (positive : Bool) : Nat → Bytes → Except Fault (JsonNumber × Bytes)
  | digits, [] => afterWhole positive digits []
  | digits, b :: rest =>
    if isDigitByte b then
      let digits' := digits * 10 + (b.toNat - 48)
      if maxWhole < digits' then
        let more := (b :: rest).takeWhile isDigitByte
        afterLongWhole positive digits more.length (skipDigits (b :: rest))
      else wholeDigits positive digits' rest
    else afterWhole positive digits (b :: rest)

def readNumber (positive : Bool) : Bytes → Except Fault (JsonNumber × Bytes)
  | [] => .error (.before .endInValue [])
  | b :: rest =>
    if b = 48 then
      if startsWithDigit rest then .error (.inFirst .badNumber rest)
      else afterWhole positive 0 rest
    else if isDigitByte b then wholeDigits positive (b.toNat - 48) rest
    else .error (.before .badNumber rest)

def skipExponent (rest : Bytes) : Except Fault Bytes :=
  let rest := match rest with
    | 43 :: r => r
    | 45 :: r => r
    | r => r
  match rest with
  | [] => .error (.before .badNumber [])
  | b :: rest => if isDigitByte b then .ok (skipDigits rest) else .error (.before .badNumber rest)

def skipNumber : Bytes → Except Fault Bytes
  | [] => .error (.before .badNumber [])
  | b :: rest =>
    if !isDigitByte b then .error (.before .badNumber rest)
    else if b = 48 ∧ startsWithDigit rest then .error (.inFirst .badNumber rest)
    else
      match skipDigits rest with
      | 46 :: r =>
        if !startsWithDigit r then .error (.inFirst .badNumber r)
        else
          let r := skipDigits r
          if startsExponent r then skipExponent r.tail else .ok r
      | r => if startsExponent r then skipExponent r.tail else .ok r

end CoordinatorGateway.Json
