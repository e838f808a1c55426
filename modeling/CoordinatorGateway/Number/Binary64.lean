namespace CoordinatorGateway

/-- The value `finite negative m e` is `±m · 2^e`, with `m < 2^53` and `-1074 ≤ e ≤ 971`, and `e`
least possible for it. -/
inductive Binary64 where
  | finite (negative : Bool) (mantissa : Nat) (exponent : Int)
  | infinite (negative : Bool)
  | nan
  deriving DecidableEq, Repr

def twoPow (k : Nat) : Nat := Nat.pow 2 k

def tenPow (k : Nat) : Nat := Nat.pow 10 k

/-- The nearest whole number to `num / den`, a half to the even neighbour. -/
def roundHalfEven (num den : Nat) : Nat :=
  let q := num / den
  let r := num % den
  if 2 * r < den then q else if den < 2 * r then q + 1 else q + q % 2

namespace Binary64

def minExponent : Int := -1074

def maxExponent : Int := 971

def zero (negative : Bool) : Binary64 := .finite negative 0 minExponent

/-- The greatest `k` with `den · 2^k ≤ num`, for positive numbers. -/
def binaryOrder (num den : Nat) : Int :=
  let k : Int := (num.log2 : Int) - den.log2
  if den * twoPow k.toNat ≤ num * twoPow (-k).toNat then k else k - 1

/-- The double nearest to `±num / den`; `den` is positive. -/
def ofQuotient (negative : Bool) (num den : Nat) : Binary64 :=
  if num = 0 then zero negative else
    let e := max (binaryOrder num den - 52) minExponent
    let m := roundHalfEven (num * twoPow (-e).toNat) (den * twoPow e.toNat)
    let (m, e) := if m = twoPow 53 then (twoPow 52, e + 1) else (m, e)
    if maxExponent < e then .infinite negative else .finite negative m e

def ofInt (n : Int) : Binary64 := ofQuotient (decide (n < 0)) n.natAbs 1

/-- The double nearest to `±digits · 10^exponent`. Magnitudes that are out of every double's
reach are settled before the power of ten is built. -/
def ofDecimal (negative : Bool) (digits : Nat) (exponent : Int) : Binary64 :=
  let order := (Nat.toDigits 10 digits).length + exponent
  if digits = 0 ∨ order < -330 then zero negative
  else if 330 < order then .infinite negative
  else ofQuotient negative (digits * tenPow exponent.toNat) (tenPow (-exponent).toNat)

def neg : Binary64 → Binary64
  | .finite s m e => .finite (!s) m e
  | .infinite s => .infinite (!s)
  | .nan => .nan

def isFinite : Binary64 → Bool
  | .finite _ _ _ => true
  | _ => false

def isZero : Binary64 → Bool
  | .finite _ m _ => m == 0
  | _ => false

def mul : Binary64 → Binary64 → Binary64
  | .finite s m e, .finite s' m' e' =>
    let k := e + e'
    ofQuotient (s != s') (m * m' * twoPow k.toNat) (twoPow (-k).toNat)
  | .nan, _ => .nan
  | _, .nan => .nan
  | .infinite s, .finite s' m _ => if m = 0 then .nan else .infinite (s != s')
  | .finite s m _, .infinite s' => if m = 0 then .nan else .infinite (s != s')
  | .infinite s, .infinite s' => .infinite (s != s')

def div : Binary64 → Binary64 → Binary64
  | .finite s m e, .finite s' m' e' =>
    if m' = 0 then if m = 0 then .nan else .infinite (s != s') else
      let k := e - e'
      ofQuotient (s != s') (m * twoPow k.toNat) (m' * twoPow (-k).toNat)
  | .nan, _ => .nan
  | _, .nan => .nan
  | .infinite s, .finite s' _ _ => .infinite (s != s')
  | .finite s _ _, .infinite s' => zero (s != s')
  | .infinite _, .infinite _ => .nan

def toInt? : Binary64 → Option Int
  | .finite s m e =>
    let den := twoPow (-e).toNat
    if m % den = 0 then
      let n : Int := m * twoPow e.toNat / den
      some (if s then -n else n)
    else none
  | _ => none

def toBits : Binary64 → Nat
  | .finite s m e =>
    (if s then twoPow 63 else 0) +
      if m < twoPow 52 then m else (e + 1075).toNat * twoPow 52 + (m - twoPow 52)
  | .infinite s => (if s then twoPow 63 else 0) + 2047 * twoPow 52
  | .nan => 2047 * twoPow 52 + twoPow 51

end Binary64

end CoordinatorGateway
