import CoordinatorGateway.Number.Binary64

namespace CoordinatorGateway.Binary64

/-- Half the gap to the next double below and above `m · 2^e`, all three as multiples of
`2^(e-2)`: `(low, value, high)`. -/
def neighbourhood (m : Nat) (e : Int) : Nat × Nat × Nat :=
  let low := if m = twoPow 52 ∧ minExponent < e then 4 * m - 1 else 4 * m - 2
  (low, 4 * m, 4 * m + 2)

/-- Whether `c · 10^k` lies among the numbers that round to `m · 2^e`; the ends count when
`m` is even. -/
def readsBack (m : Nat) (e : Int) (c : Nat) (k : Int) : Bool :=
  let (low, _, high) := neighbourhood m e
  let e := e - 2
  let scale (n : Nat) := n * twoPow e.toNat * tenPow (-k).toNat
  let value := c * tenPow k.toNat * twoPow (-e).toNat
  if m % 2 = 0 then scale low ≤ value && value ≤ scale high
  else scale low < value && value < scale high

/-- The multiples of `10^k` just below and just above the value, the nearer first. -/
def decimalNeighbours (m : Nat) (e : Int) (k : Int) : List Nat :=
  let num := m * twoPow e.toNat * tenPow (-k).toNat
  let den := twoPow (-e).toNat * tenPow k.toNat
  let q := num / den
  if 2 * (num % den) < den ∨ (2 * (num % den) = den ∧ q % 2 = 0) then [q, q + 1] else [q + 1, q]

/-- The order for which `10^(order-1) ≤ value < 10^order`. -/
def decimalOrder (m : Nat) (e : Int) : Int :=
  let num := m * twoPow e.toNat
  let den := twoPow (-e).toNat
  if den ≤ num then (Nat.toDigits 10 (num / den)).length
  else 1 - ((Nat.toDigits 10 ((den - 1) / num)).length : Int)

/-- Digits and power of ten, tried with one digit first and with at most seventeen. -/
def shortestFrom (m : Nat) (e : Int) (order : Int) : Nat → Nat → Nat × Int
  | 0, _ => (0, 0)
  | fuel + 1, n =>
    let k := order - n
    match (decimalNeighbours m e k).find? fun c => readsBack m e c k with
    | some c => (c, k)
    | none => shortestFrom m e order fuel (n + 1)

/-- Takes the trailing zeros of `c` into the power of ten. -/
def dropZeros : Nat → Nat → Int → Nat × Int
  | 0, c, k => (c, k)
  | fuel + 1, c, k => if c % 10 = 0 ∧ c ≠ 0 then dropZeros fuel (c / 10) (k + 1) else (c, k)

def shortest (m : Nat) (e : Int) : Nat × Int :=
  let (c, k) := shortestFrom m e (decimalOrder m e) 18 1
  dropZeros 20 c k

end CoordinatorGateway.Binary64

namespace CoordinatorGateway

/-- Where positional notation ends and how an exponent is written. -/
structure RealFormat where
  /-- Most digits before the point in positional notation. -/
  maxWhole : Int
  /-- Most zeros right after the point in positional notation. -/
  maxLeadingZeros : Int
  positiveExponentSign : String

/-- A positive number is written positionally from 0.00001 up to sixteen digits before the
point, always with a point; larger and smaller ones with an exponent that has its sign. -/
def RealFormat.json : RealFormat := ⟨16, 4, "+"⟩

def zeros (n : Nat) : String := String.ofList (List.replicate n '0')

def RealFormat.write (f : RealFormat) (c : Nat) (k : Int) : String :=
  let digits := toString c
  let n := digits.length
  let point : Int := n + k
  if 0 ≤ k ∧ point ≤ f.maxWhole then digits ++ zeros k.toNat ++ ".0"
  else if 0 < point ∧ point ≤ f.maxWhole then
    String.ofList (digits.toList.take point.toNat) ++ "." ++
      String.ofList (digits.toList.drop point.toNat)
  else if -f.maxLeadingZeros ≤ point ∧ point ≤ 0 then "0." ++ zeros (-point).toNat ++ digits
  else
    let e := point - 1
    let power := "e" ++ (if 0 ≤ e then f.positiveExponentSign else "-") ++ toString e.natAbs
    if n = 1 then digits ++ power
    else String.ofList (digits.toList.take 1) ++ "." ++ String.ofList (digits.toList.drop 1) ++
      power

def Binary64.write (f : RealFormat) : Binary64 → String
  | .finite s m e =>
    (if s then "-" else "") ++
      if m = 0 then "0.0" else
        let (c, k) := shortest m e
        f.write c k
  | .infinite s => (if s then "-" else "") ++ "inf"
  | .nan => "NaN"

end CoordinatorGateway
