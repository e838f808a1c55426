import CoordinatorGateway.Number.Binary64
import Mathlib.Algebra.Order.Field.Power
import Mathlib.Data.Rat.Cast.Order
import Mathlib.Tactic.Linarith
import Mathlib.Tactic.Positivity
import Mathlib.Tactic.Ring

namespace CoordinatorGateway

theorem cast_twoPow (k : Nat) : (twoPow k : ℚ) = 2 ^ k := Nat.cast_pow 2 k

theorem twoPow_pos (k : Nat) : 0 < twoPow k := Nat.pow_pos (by decide)

theorem mul_twoPow_le_iff {a b : Nat} {k : Int} :
    a * twoPow k.toNat ≤ b * twoPow (-k).toNat ↔ (a : ℚ) * 2 ^ k ≤ b := by
  rw [← Nat.cast_le (α := ℚ), Nat.cast_mul, Nat.cast_mul, cast_twoPow, cast_twoPow]
  obtain ⟨n, rfl | rfl⟩ := k.eq_nat_or_neg
  · rw [Int.toNat_natCast, Int.toNat_neg_natCast, pow_zero, mul_one, zpow_natCast]
  · rw [Int.toNat_neg_natCast, neg_neg, Int.toNat_natCast, pow_zero, mul_one, zpow_neg,
      zpow_natCast, ← div_eq_mul_inv, div_le_iff₀ (by positivity)]

theorem mul_twoPow_div {a b : Nat} {k : Int} :
    ((a * twoPow (-k).toNat : Nat) : ℚ) / (b * twoPow k.toNat : Nat) = a / b / 2 ^ k := by
  rw [Nat.cast_mul, Nat.cast_mul, cast_twoPow, cast_twoPow]
  obtain ⟨n, rfl | rfl⟩ := k.eq_nat_or_neg
  · rw [Int.toNat_natCast, Int.toNat_neg_natCast, pow_zero, mul_one, zpow_natCast, div_div]
  · rw [Int.toNat_neg_natCast, neg_neg, Int.toNat_natCast, pow_zero, mul_one, zpow_neg,
      zpow_natCast, div_inv_eq_mul, mul_div_right_comm]

theorem abs_mul_sub {a p q : ℚ} (hp : 0 < p) : |a * p - q| = |a - q / p| * p :=
  calc |a * p - q| = |(a - q / p) * p| := by rw [sub_mul, div_mul_cancel₀ q hp.ne']
    _ = |a - q / p| * p := by rw [abs_mul, abs_of_pos hp]

theorem roundHalfEven_cases (num den : Nat) :
    roundHalfEven num den = num / den ∧ 2 * (num % den) ≤ den ∨
      roundHalfEven num den = num / den + 1 ∧ den ≤ 2 * (num % den) := by
  rw [roundHalfEven]
  split
  · next hless => exact .inl ⟨rfl, hless.le⟩
  · next hmore =>
    split
    · exact .inr ⟨rfl, Nat.not_lt.1 hmore⟩
    · next hleast =>
      rcases Nat.mod_two_eq_zero_or_one (num / den) with heven | hodd
      · rw [heven]
        exact .inl ⟨rfl, Nat.not_lt.1 hleast⟩
      · rw [hodd]
        exact .inr ⟨rfl, Nat.not_lt.1 hmore⟩

/-- Of the whole numbers around a number, the one that is nearer is the nearest of all. -/
theorem nearest_of_neighbour {t : ℚ} {m q : Nat} (hlow : (q : ℚ) ≤ t) (hhigh : t ≤ q + 1)
    (hm : m = q ∧ t - q ≤ q + 1 - t ∨ m = q + 1 ∧ q + 1 - t ≤ t - q) (k : Int) :
    |(m : ℚ) - t| ≤ |(k : ℚ) - t| := by
  have hfar : t - q ≤ |(k : ℚ) - t| ∨ q + 1 - t ≤ |(k : ℚ) - t| := by
    rcases le_or_gt k q with hk | hk
    · have hk' : (k : ℚ) ≤ q := by exact_mod_cast hk
      exact .inl ((sub_le_sub_left hk' t).trans (abs_sub_comm (k : ℚ) t ▸ le_abs_self _))
    · have hk' : (q : ℚ) + 1 ≤ k := by exact_mod_cast hk
      exact .inr ((sub_le_sub_right hk' t).trans (le_abs_self _))
  rcases hm with ⟨rfl, hhalf⟩ | ⟨rfl, hhalf⟩
  · rw [abs_sub_comm, abs_of_nonneg (sub_nonneg.2 hlow)]
    exact hfar.elim id hhalf.trans
  · rw [Nat.cast_succ, abs_of_nonneg (sub_nonneg.2 hhigh)]
    exact hfar.elim hhalf.trans id

theorem roundHalfEven_nearest (num : Nat) {den : Nat} (hden : 0 < den) (k : Int) :
    |(roundHalfEven num den : ℚ) - num / den| ≤ |(k : ℚ) - num / den| := by
  have hpos : (0 : ℚ) < den := Nat.cast_pos.2 hden
  have hsplit : (num : ℚ) = den * (num / den : Nat) + (num % den : Nat) := by
    exact_mod_cast (Nat.div_add_mod num den).symm
  have hlost : (num : ℚ) / den - (num / den : Nat) = (num % den : Nat) / den := by
    rw [sub_eq_iff_eq_add, div_eq_iff hpos.ne', add_mul, div_mul_cancel₀ _ hpos.ne', add_comm,
      mul_comm _ (den : ℚ)]
    exact hsplit
  have hone : ((num % den : Nat) : ℚ) / den ≤ 1 :=
    (div_le_one hpos).2 (Nat.cast_le.2 (Nat.mod_lt num hden).le)
  have hzero : (0 : ℚ) ≤ (num % den : Nat) / den := by positivity
  have hdouble : ((num % den : Nat) : ℚ) / den + (num % den : Nat) / den =
      (2 * (num % den) : Nat) / den := by
    rw [← add_div, ← two_mul, Nat.cast_mul, Nat.cast_ofNat]
  refine nearest_of_neighbour (q := num / den) (by linarith) (by linarith) ?_ k
  rcases roundHalfEven_cases num den with ⟨hdown, hhalf⟩ | ⟨hup, hhalf⟩
  · have hhalf' : ((2 * (num % den) : Nat) : ℚ) / den ≤ 1 :=
      (div_le_one hpos).2 (Nat.cast_le.2 hhalf)
    exact .inl ⟨hdown, by linarith⟩
  · have hhalf' : 1 ≤ ((2 * (num % den) : Nat) : ℚ) / den :=
      (one_le_div hpos).2 (Nat.cast_le.2 hhalf)
    exact .inr ⟨hup, by linarith⟩

namespace Binary64

/-- The number that would come after the greatest finite double. -/
def overflow : ℚ := 2 ^ (maxExponent + 53)

/-- The number that a double is; infinity counts as what would come after the finite ones. -/
def value : Binary64 → ℚ
  | .finite false m e => m * 2 ^ e
  | .finite true m e => -(m * 2 ^ e)
  | .infinite false => overflow
  | .infinite true => -overflow
  | .nan => 0

def IsNumber : Binary64 → Prop
  | .finite _ m e => m < 2 ^ 53 ∧ minExponent ≤ e ∧ e ≤ maxExponent
  | .infinite _ => True
  | .nan => False

/-- No other double is nearer to the number. -/
structure Nearest (x : Binary64) (q : ℚ) : Prop where
  isNumber : x.IsNumber
  le : ∀ y : Binary64, y.IsNumber → |x.value - q| ≤ |y.value - q|

variable {x y : Binary64} {q : ℚ}

theorem overflow_pos : 0 < overflow := by
  rw [overflow]
  positivity

theorem magnitude_nonneg (m : Nat) (e : Int) : (0 : ℚ) ≤ m * 2 ^ e := by positivity

theorem lt_overflow {m : Nat} {e : Int} (hm : m < 2 ^ 53) (he : e ≤ maxExponent) :
    (m : ℚ) * 2 ^ e < overflow := by
  have hm' : (m : ℚ) < 2 ^ (53 : Int) := by exact_mod_cast hm
  calc (m : ℚ) * 2 ^ e < 2 ^ (53 : Int) * 2 ^ e := by gcongr
    _ ≤ 2 ^ (53 : Int) * 2 ^ maxExponent := by
      gcongr
      exact one_le_two
    _ = overflow := by rw [← zpow_add₀ two_ne_zero, add_comm, overflow]

theorem IsNumber.value_le (h : y.IsNumber) : y.value ≤ overflow := by
  have hpos := overflow_pos
  match y, h with
  | .finite false m e, ⟨hm, _, he⟩ => exact (lt_overflow hm he).le
  | .finite true m e, _ =>
    have hnonneg := magnitude_nonneg m e
    rw [value]
    linarith
  | .infinite false, _ => exact le_refl overflow
  | .infinite true, _ =>
    rw [value]
    linarith

theorem IsNumber.exists_value (h : y.IsNumber) : ∃ (m : Nat) (e : Int), m < 2 ^ 53 ∧
    minExponent ≤ e ∧ (y.value = m * 2 ^ e ∨ y.value = -(m * 2 ^ e)) := by
  have hinfinite : overflow = (2 ^ 52 : Nat) * 2 ^ (maxExponent + 1) := by
    have hexponent : maxExponent + 53 = (52 : Nat) + (maxExponent + 1) := by decide
    rw [overflow, Nat.cast_pow, Nat.cast_ofNat, ← zpow_natCast, ← zpow_add₀ two_ne_zero, hexponent]
  match y, h with
  | .finite false m e, ⟨hm, he, _⟩ => exact ⟨m, e, hm, he, .inl rfl⟩
  | .finite true m e, ⟨hm, he, _⟩ => exact ⟨m, e, hm, he, .inr rfl⟩
  | .infinite false, _ =>
    exact ⟨2 ^ 52, maxExponent + 1, by decide, by decide, .inl hinfinite⟩
  | .infinite true, _ =>
    exact ⟨2 ^ 52, maxExponent + 1, by decide, by decide, .inr (congrArg Neg.neg hinfinite)⟩

theorem binaryOrder_spec {num den : Nat} (hnum : 0 < num) (hden : 0 < den) :
    2 ^ binaryOrder num den ≤ (num : ℚ) / den ∧
      (num : ℚ) / den < 2 ^ (binaryOrder num den + 1) := by
  have hpos : (0 : ℚ) < den := Nat.cast_pos.2 hden
  have hnumLow : (2 : ℚ) ^ (num.log2 : Int) ≤ num := by
    rw [zpow_natCast]
    exact_mod_cast Nat.log2_self_le hnum.ne'
  have hnumHigh : (num : ℚ) < 2 ^ ((num.log2 : Int) + 1) := by
    rw [zpow_add_one₀ two_ne_zero, zpow_natCast, ← pow_succ]
    exact_mod_cast Nat.lt_log2_self
  have hdenLow : (2 : ℚ) ^ (den.log2 : Int) ≤ den := by
    rw [zpow_natCast]
    exact_mod_cast Nat.log2_self_le hden.ne'
  have hdenHigh : (den : ℚ) < 2 ^ ((den.log2 : Int) + 1) := by
    rw [zpow_add_one₀ two_ne_zero, zpow_natCast, ← pow_succ]
    exact_mod_cast Nat.lt_log2_self
  rw [le_div_iff₀ hpos, div_lt_iff₀ hpos, mul_comm _ (den : ℚ), mul_comm _ (den : ℚ), binaryOrder]
  split
  · next hle =>
    refine ⟨mul_twoPow_le_iff.1 hle, ?_⟩
    calc (num : ℚ) < 2 ^ ((num.log2 : Int) + 1) := hnumHigh
      _ = 2 ^ (den.log2 : Int) * 2 ^ ((num.log2 : Int) - den.log2 + 1) := by
        rw [← zpow_add₀ two_ne_zero]
        congr 1
        ring
      _ ≤ den * 2 ^ ((num.log2 : Int) - den.log2 + 1) := by gcongr
  · next hlt =>
    rw [mul_twoPow_le_iff, not_le] at hlt
    refine ⟨?_, by rwa [sub_add_cancel]⟩
    calc (den : ℚ) * 2 ^ ((num.log2 : Int) - den.log2 - 1)
        ≤ 2 ^ ((den.log2 : Int) + 1) * 2 ^ ((num.log2 : Int) - den.log2 - 1) := by gcongr
      _ = 2 ^ (num.log2 : Int) := by
        rw [← zpow_add₀ two_ne_zero]
        congr 1
        ring
      _ ≤ num := hnumLow

def lastPlace (num den : Nat) : Int := max (binaryOrder num den - 52) minExponent

def mantissa (num den : Nat) : Nat :=
  roundHalfEven (num * twoPow (-lastPlace num den).toNat) (den * twoPow (lastPlace num den).toNat)

theorem mantissa_nearest (num : Nat) {den : Nat} (hden : 0 < den) (k : Int) :
    |(mantissa num den : ℚ) * 2 ^ lastPlace num den - num / den| ≤
      |(k : ℚ) * 2 ^ lastPlace num den - num / den| := by
  have hpos : (0 : ℚ) < 2 ^ lastPlace num den := by positivity
  have hround := roundHalfEven_nearest (num * twoPow (-lastPlace num den).toNat)
    (Nat.mul_pos hden (twoPow_pos (lastPlace num den).toNat)) k
  rw [mul_twoPow_div] at hround
  rw [abs_mul_sub hpos, abs_mul_sub hpos]
  exact mul_le_mul_of_nonneg_right hround hpos.le

section

variable {num den : Nat} (hnum : 0 < num) (hden : 0 < den)

include hden in
theorem mantissa_le {k : Int} (h : (num : ℚ) / den ≤ k * 2 ^ lastPlace num den) :
    (mantissa num den : Int) ≤ k := by
  have hpos : (0 : ℚ) < 2 ^ lastPlace num den := by positivity
  have hnearest := mantissa_nearest num hden k
  rw [abs_of_nonneg (sub_nonneg.2 h)] at hnearest
  have hle := (le_abs_self _).trans hnearest
  have hcast := le_of_mul_le_mul_right (sub_le_sub_iff_right _ |>.1 hle) hpos
  exact_mod_cast hcast

include hden in
theorem le_mantissa {k : Int} (h : k * 2 ^ lastPlace num den ≤ (num : ℚ) / den) :
    k ≤ mantissa num den := by
  have hpos : (0 : ℚ) < 2 ^ lastPlace num den := by positivity
  have hnearest := mantissa_nearest num hden k
  rw [abs_sub_comm (k * _ : ℚ), abs_of_nonneg (sub_nonneg.2 h), abs_sub_comm] at hnearest
  have hle := (le_abs_self _).trans hnearest
  have hcast := le_of_mul_le_mul_right (sub_le_sub_iff_left _ |>.1 hle) hpos
  exact_mod_cast hcast

include hnum hden in
theorem mantissa_le_twoPow : mantissa num den ≤ 2 ^ 53 := by
  have hplace : binaryOrder num den + 1 ≤ 53 + lastPlace num den := by
    rw [lastPlace]
    omega
  have hbelow : (num : ℚ) / den ≤ ((2 ^ 53 : Nat) : Int) * 2 ^ lastPlace num den :=
    calc (num : ℚ) / den ≤ 2 ^ (binaryOrder num den + 1) := (binaryOrder_spec hnum hden).2.le
      _ ≤ 2 ^ (53 + lastPlace num den) := zpow_le_zpow_right₀ one_le_two hplace
      _ = ((2 ^ 53 : Nat) : Int) * 2 ^ lastPlace num den := by
        rw [zpow_add₀ two_ne_zero]
        rfl
  exact Int.ofNat_le.1 (mantissa_le hden hbelow)

include hnum hden in
theorem twoPow_le_quotient (h : minExponent < lastPlace num den) :
    ((2 ^ 52 : Nat) : Int) * 2 ^ lastPlace num den ≤ (num : ℚ) / den := by
  have hplace : 52 + lastPlace num den = binaryOrder num den := by
    rw [lastPlace] at h ⊢
    omega
  calc (((2 ^ 52 : Nat) : Int) : ℚ) * 2 ^ lastPlace num den = 2 ^ (52 + lastPlace num den) := by
        rw [zpow_add₀ two_ne_zero]
        rfl
    _ = 2 ^ binaryOrder num den := by rw [hplace]
    _ ≤ num / den := (binaryOrder_spec hnum hden).1

include hnum hden in
theorem mantissa_nearest_of_lt {m : Nat} {e : Int} (hm : m < 2 ^ 53) (he : minExponent ≤ e) :
    |(mantissa num den : ℚ) * 2 ^ lastPlace num den - num / den| ≤
      |(m : ℚ) * 2 ^ e - num / den| := by
  by_cases hplace : lastPlace num den ≤ e
  · obtain ⟨j, hj⟩ := Int.le.dest hplace
    have hgrid : (m : ℚ) * 2 ^ e = ((m * 2 ^ j : Nat) : Int) * 2 ^ lastPlace num den := by
      rw [← hj, zpow_add₀ two_ne_zero, zpow_natCast]
      push_cast
      ring
    rw [hgrid]
    exact mantissa_nearest num hden _
  · -- A finer number is below the least with all digits, and that one is below the quotient.
    rw [not_le] at hplace
    have hlow := twoPow_le_quotient hnum hden (he.trans_lt hplace)
    have hfine : (m : ℚ) * 2 ^ e ≤ ((2 ^ 52 : Nat) : Int) * 2 ^ lastPlace num den := by
      have hm' : (m : ℚ) ≤ 2 ^ (53 : Int) := by exact_mod_cast hm.le
      calc (m : ℚ) * 2 ^ e ≤ 2 ^ (53 : Int) * 2 ^ (lastPlace num den - 1) := by
            gcongr
            · exact one_le_two
            · omega
        _ = 2 ^ (52 : Int) * 2 ^ lastPlace num den := by
            rw [← zpow_add₀ two_ne_zero, ← zpow_add₀ two_ne_zero]
            congr 1
            ring
        _ = ((2 ^ 52 : Nat) : Int) * 2 ^ lastPlace num den := rfl
    calc |(mantissa num den : ℚ) * 2 ^ lastPlace num den - num / den|
        ≤ |((2 ^ 52 : Nat) : Int) * 2 ^ lastPlace num den - (num : ℚ) / den| :=
          mantissa_nearest num hden _
      _ = num / den - ((2 ^ 52 : Nat) : Int) * 2 ^ lastPlace num den := by
          rw [abs_sub_comm, abs_of_nonneg (sub_nonneg.2 hlow)]
      _ ≤ num / den - m * 2 ^ e := sub_le_sub_left hfine _
      _ ≤ |(m : ℚ) * 2 ^ e - num / den| := by
          rw [abs_sub_comm]
          exact le_abs_self _

include hnum hden in
theorem ofQuotient_cases :
    (∃ m e, ofQuotient false num den = .finite false m e ∧
      (finite false m e).IsNumber ∧
      (m : ℚ) * 2 ^ e = mantissa num den * 2 ^ lastPlace num den) ∨
    ofQuotient false num den = .infinite false ∧
      overflow ≤ mantissa num den * 2 ^ lastPlace num den := by
  have hleast : minExponent ≤ lastPlace num den := le_max_right _ _
  by_cases hcarry : mantissa num den = twoPow 53
  · have hvalue : ((twoPow 52 : Nat) : ℚ) * 2 ^ (lastPlace num den + 1) =
        mantissa num den * 2 ^ lastPlace num den := by
      rw [hcarry, zpow_add_one₀ two_ne_zero, cast_twoPow, cast_twoPow]
      ring
    have hround : ofQuotient false num den =
        if maxExponent < lastPlace num den + 1 then .infinite false
        else .finite false (twoPow 52) (lastPlace num den + 1) := by
      rw [mantissa, lastPlace] at hcarry
      rw [ofQuotient, if_neg hnum.ne']
      dsimp only
      rw [if_pos hcarry]
      rfl
    rw [hround]
    split
    · next hlarge =>
      refine .inr ⟨rfl, ?_⟩
      calc overflow ≤ 2 ^ (52 + (lastPlace num den + 1)) :=
            zpow_le_zpow_right₀ one_le_two (by omega)
        _ = (twoPow 52 : Nat) * 2 ^ (lastPlace num den + 1) := by
          rw [zpow_add₀ two_ne_zero, cast_twoPow]
          rfl
        _ = mantissa num den * 2 ^ lastPlace num den := hvalue
    · next hsmall =>
      exact .inl ⟨_, _, rfl, ⟨by decide, hleast.trans (by omega), not_lt.1 hsmall⟩, hvalue⟩
  · have hlt : mantissa num den < 2 ^ 53 := lt_of_le_of_ne (mantissa_le_twoPow hnum hden) hcarry
    have hround : ofQuotient false num den =
        if maxExponent < lastPlace num den then .infinite false
        else .finite false (mantissa num den) (lastPlace num den) := by
      rw [mantissa, lastPlace] at hcarry
      rw [ofQuotient, if_neg hnum.ne']
      dsimp only
      rw [if_neg hcarry]
      rfl
    rw [hround]
    split
    · next hlarge =>
      have hplace := twoPow_le_quotient hnum hden (lt_trans (by decide) hlarge)
      have hfull : (2 : ℚ) ^ (52 : Int) ≤ mantissa num den := by
        exact_mod_cast le_mantissa hden hplace
      refine .inr ⟨rfl, ?_⟩
      calc overflow ≤ 2 ^ (52 + lastPlace num den) :=
            zpow_le_zpow_right₀ one_le_two (by omega)
        _ = 2 ^ (52 : Int) * 2 ^ lastPlace num den := zpow_add₀ two_ne_zero _ _
        _ ≤ mantissa num den * 2 ^ lastPlace num den := by gcongr
    · next hsmall => exact .inl ⟨_, _, rfl, ⟨hlt, hleast, not_lt.1 hsmall⟩, rfl⟩

end

/-- A quotient becomes the double nearest to it. -/
theorem ofQuotient_nearest (num : Nat) {den : Nat} (hden : 0 < den) :
    Nearest (ofQuotient false num den) (num / den) := by
  by_cases hnum : num = 0
  · subst hnum
    rw [ofQuotient, if_pos rfl]
    refine ⟨⟨by decide, le_refl _, by decide⟩, fun y _ => ?_⟩
    have hvalue : (zero false).value = 0 := by
      change ((0 : Nat) : ℚ) * 2 ^ minExponent = 0
      rw [Nat.cast_zero, zero_mul]
    rw [hvalue, Nat.cast_zero, zero_div, sub_zero, abs_zero]
    exact abs_nonneg _
  · replace hnum := Nat.pos_of_ne_zero hnum
    have hquotient : (0 : ℚ) ≤ num / den := by positivity
    have hbest (y : Binary64) (hy : y.IsNumber) :
        |(mantissa num den : ℚ) * 2 ^ lastPlace num den - num / den| ≤
          |y.value - num / den| := by
      obtain ⟨m, e, hm, he, hvalue | hvalue⟩ := hy.exists_value
      · rw [hvalue]
        exact mantissa_nearest_of_lt hnum hden hm he
      · -- What is below zero is farther away than zero.
        have hzero := mantissa_nearest num hden 0
        rw [Int.cast_zero, zero_mul, zero_sub, abs_neg, abs_of_nonneg hquotient] at hzero
        have hnonneg := magnitude_nonneg m e
        have hunder := neg_le_abs (y.value - num / den)
        rw [hvalue] at hunder ⊢
        linarith
    rcases ofQuotient_cases hnum hden with ⟨m, e, hfinite, hnumber, hvalue⟩ | ⟨hinfinite, hlarge⟩
    · rw [hfinite]
      refine ⟨hnumber, fun y hy => ?_⟩
      change |(m : ℚ) * 2 ^ e - num / den| ≤ _
      rw [hvalue]
      exact hbest y hy
    · rw [hinfinite]
      refine ⟨trivial, fun y hy => ?_⟩
      have hy' := hy.value_le
      have hover := le_abs_self ((mantissa num den : ℚ) * 2 ^ lastPlace num den - num / den)
      have hunder := neg_le_abs (y.value - num / den)
      have hnear := hbest y hy
      rw [value, abs_le]
      constructor <;> linarith

namespace Nearest

theorem le_value (h : x.Nearest q) (hy : y.IsNumber) (hle : y.value ≤ q) : y.value ≤ x.value := by
  have hnear := h.le y hy
  rw [abs_of_nonpos (sub_nonpos.2 hle)] at hnear
  have hunder := neg_le_abs (x.value - q)
  linarith

theorem value_le (h : x.Nearest q) (hy : y.IsNumber) (hle : q ≤ y.value) : x.value ≤ y.value := by
  have hnear := h.le y hy
  rw [abs_of_nonneg (sub_nonneg.2 hle)] at hnear
  have hover := le_abs_self (x.value - q)
  linarith

theorem eq_infinite (h : x.Nearest q) (hq : overflow ≤ q) : x = .infinite false := by
  have hpos := overflow_pos
  have hle : overflow ≤ x.value := h.le_value (y := .infinite false) trivial hq
  have hnumber := h.isNumber
  cases x with
  | nan => exact hnumber.elim
  | infinite negative =>
    cases negative with
    | false => rfl
    | true =>
      rw [value] at hle
      linarith
  | finite negative m e =>
    obtain ⟨hm, -, he⟩ := hnumber
    cases negative with
    | false => exact absurd hle (not_le.2 (lt_overflow hm he))
    | true =>
      have hnonneg := magnitude_nonneg m e
      rw [value] at hle
      linarith

theorem isFinite (h : x.Nearest q) (hq : 0 ≤ q) {m : Nat} {e : Int}
    (hnumber : (finite false m e).IsNumber) (hle : q ≤ m * 2 ^ e) : x.isFinite = true := by
  have hlow : (finite false 0 0).value ≤ x.value :=
    h.le_value ⟨by decide, by decide, by decide⟩ (by rwa [value, Nat.cast_zero, zero_mul])
  have hhigh : x.value ≤ (finite false m e).value := h.value_le hnumber hle
  rw [value, Nat.cast_zero, zero_mul] at hlow
  have hlt := hhigh.trans_lt (lt_overflow hnumber.1 hnumber.2.2)
  have hnumber := h.isNumber
  cases x with
  | nan => exact hnumber.elim
  | finite negative m e => rfl
  | infinite negative =>
    cases negative with
    | false => exact absurd hlt (lt_irrefl overflow)
    | true => exact absurd hlow (not_le.2 (neg_lt_zero.2 overflow_pos))

end Nearest

def AtLeast (bound : ℚ) : Binary64 → Prop
  | .finite false m e => bound ≤ m * 2 ^ e
  | .infinite false => True
  | _ => False

theorem atLeast_of_le_value {bound : ℚ} (hbound : 0 < bound) (h : bound ≤ x.value) :
    AtLeast bound x := by
  cases x with
  | nan => exact absurd h (not_le.2 hbound)
  | infinite negative =>
    cases negative with
    | false => trivial
    | true => exact absurd h (not_le.2 ((neg_lt_zero.2 overflow_pos).trans hbound))
  | finite negative m e =>
    cases negative with
    | false => exact h
    | true =>
      have hnonneg := magnitude_nonneg m e
      exact absurd h (not_le.2 ((neg_nonpos.2 hnonneg).trans_lt hbound))

theorem AtLeast.isZero_eq_false {bound : ℚ} {x : Binary64} (h : AtLeast bound x)
    (hbound : 0 < bound) : x.isZero = false := by
  match x with
  | .infinite _ => rfl
  | .nan => rfl
  | .finite true _ _ => exact h.elim
  | .finite false m e =>
    have hle : bound ≤ m * 2 ^ e := h
    refine beq_eq_false_iff_ne.2 ?_
    rintro rfl
    rw [Nat.cast_zero, zero_mul] at hle
    exact absurd hle (not_le.2 hbound)

theorem overflow_le_pow {j : Nat} (hj : 1024 ≤ j) : overflow ≤ 2 ^ j := by
  rw [overflow, ← zpow_natCast]
  exact zpow_le_zpow_right₀ one_le_two (by rw [maxExponent]; omega)

theorem pow_le_div {num den j : Nat} (hden : 0 < den) (h : den * 2 ^ j ≤ num) :
    (2 : ℚ) ^ j ≤ num / den := by
  rw [le_div_iff₀ (Nat.cast_pos.2 hden), mul_comm]
  exact_mod_cast h

theorem ofQuotient_infinite {num den j : Nat} (hden : 0 < den) (hj : 1024 ≤ j)
    (h : den * 2 ^ j ≤ num) : ofQuotient false num den = .infinite false :=
  (ofQuotient_nearest num hden).eq_infinite ((overflow_le_pow hj).trans (pow_le_div hden h))

theorem ofQuotient_atLeast {num den j : Nat} (hden : 0 < den) (h : den * 2 ^ j ≤ num) :
    AtLeast (2 ^ j) (ofQuotient false num den) := by
  by_cases hj : 1024 ≤ j
  · rw [ofQuotient_infinite hden hj h]
    trivial
  · have hnumber : (finite false (2 ^ 52) (j - 52)).IsNumber := by
      refine ⟨by decide, ?_, ?_⟩
      · rw [minExponent]
        omega
      · rw [maxExponent]
        omega
    have hvalue : (finite false (2 ^ 52) (j - 52)).value = 2 ^ j := by
      rw [value, Nat.cast_pow, Nat.cast_ofNat, ← zpow_natCast, ← zpow_add₀ two_ne_zero,
        ← zpow_natCast]
      congr 1
      push_cast
      ring
    have hle := (ofQuotient_nearest num hden).le_value hnumber
      (hvalue.trans_le (pow_le_div hden h))
    exact atLeast_of_le_value (by positivity) (hvalue.symm.trans_le hle)

theorem mul_atLeast {i j : Nat} {x y : Binary64} (hx : AtLeast (2 ^ i) x) (hy : AtLeast (2 ^ j) y) :
    AtLeast (2 ^ (i + j)) (x.mul y) := by
  have hne (k : Nat) {m : Nat} {e : Int} (h : (2 : ℚ) ^ k ≤ m * 2 ^ e) : m ≠ 0 := by
    rintro rfl
    rw [Nat.cast_zero, zero_mul] at h
    exact absurd h (not_le.2 (by positivity))
  match x, y with
  | .infinite false, .infinite false => trivial
  | .infinite false, .finite false m e =>
    rw [mul, if_neg (hne j hy)]
    trivial
  | .finite false m e, .infinite false =>
    rw [mul, if_neg (hne i hx)]
    trivial
  | .finite false m e, .finite false m' e' =>
    refine ofQuotient_atLeast (twoPow_pos _) ?_
    have hswap := mul_twoPow_le_iff (a := 2 ^ (i + j)) (b := m * m') (k := -(e + e'))
    rw [neg_neg] at hswap
    rw [Nat.mul_comm, hswap, zpow_neg, ← div_eq_mul_inv, div_le_iff₀ (by positivity)]
    calc ((2 ^ (i + j) : Nat) : ℚ) = 2 ^ i * 2 ^ j := by
          rw [← pow_add]
          exact_mod_cast rfl
      _ ≤ (m * 2 ^ e) * (m' * 2 ^ e') := by
          have hx' : (2 : ℚ) ^ i ≤ m * 2 ^ e := hx
          have hy' : (2 : ℚ) ^ j ≤ m' * 2 ^ e' := hy
          gcongr
      _ = ((m * m' : Nat) : ℚ) * 2 ^ (e + e') := by
          rw [zpow_add₀ two_ne_zero, Nat.cast_mul]
          ring

theorem toInt?_finite (m : Nat) (e : Int) : (finite false m e).toInt? =
    if m % twoPow (-e).toNat = 0 then
      some ((m * twoPow e.toNat / twoPow (-e).toNat : Nat) : Int)
    else none := by
  rw [toInt?]
  push_cast
  rfl

theorem toInt?_atLeast {j : Nat} {x : Binary64} {i : Int} (h : AtLeast (2 ^ j) x)
    (hi : x.toInt? = some i) : 2 ^ j ≤ i := by
  match x with
  | .finite true m e => exact h.elim
  | .infinite true => exact h.elim
  | .infinite false => cases hi
  | .nan => cases hi
  | .finite false m e =>
    rw [toInt?_finite] at hi
    split at hi
    · obtain rfl := Option.some.inj hi
      have hcast : (2 : Int) ^ j = ((2 ^ j : Nat) : Int) := (Nat.cast_pow 2 j).symm
      rw [hcast, Int.ofNat_le, Nat.le_div_iff_mul_le (twoPow_pos _)]
      have hswap := mul_twoPow_le_iff (a := 2 ^ j) (b := m) (k := -e)
      rw [neg_neg] at hswap
      rw [hswap, zpow_neg, ← div_eq_mul_inv, div_le_iff₀ (by positivity)]
      exact_mod_cast h
    · cases hi

theorem toInt?_of_value {m n : Nat} {e : Int} (h : (m : ℚ) * 2 ^ e = n) :
    (finite false m e).toInt? = some (n : Int) := by
  have hscaled : m * twoPow e.toNat = n * twoPow (-e).toNat := by
    refine Nat.le_antisymm (mul_twoPow_le_iff.2 h.le) ?_
    have hswap := mul_twoPow_le_iff (a := n) (b := m) (k := -e)
    rw [neg_neg] at hswap
    rw [hswap, zpow_neg, ← div_eq_mul_inv, div_le_iff₀ (by positivity)]
    exact h.ge
  have hwhole : m % twoPow (-e).toNat = 0 := by
    obtain ⟨j, rfl | rfl⟩ := e.eq_nat_or_neg
    · rw [Int.toNat_neg_natCast]
      exact Nat.mod_one m
    · rw [Int.toNat_neg_natCast] at hscaled
      rw [(Nat.mul_one m).symm.trans hscaled, Nat.mul_mod_left]
  rw [toInt?_finite, if_pos hwhole, hscaled, Nat.mul_div_cancel _ (twoPow_pos _)]

theorem Nearest.toInt? {n : Nat} (h : x.Nearest n) (hn : n < 2 ^ 53) :
    x.toInt? = some (n : Int) := by
  have hnumber : (finite false n 0).IsNumber := ⟨hn, by decide, by decide⟩
  have hvalue : (finite false n 0).value = n := by rw [value, zpow_zero, mul_one]
  have hsame : x.value = n := by
    rw [← hvalue]
    exact le_antisymm (h.value_le hnumber hvalue.ge) (h.le_value hnumber hvalue.le)
  have hfinite := h.isFinite (Nat.cast_nonneg n) hnumber hvalue.ge
  cases x with
  | nan => cases hfinite
  | infinite negative => cases hfinite
  | finite negative m e =>
    cases negative with
    | false => exact toInt?_of_value hsame
    | true =>
      -- It is the negative of zero.
      have hnonneg := magnitude_nonneg m e
      rw [value] at hsame
      have hzero : (m : ℚ) * 2 ^ e = 0 := by
        have hn := Nat.cast_nonneg (α := ℚ) n
        linarith
      have hm : m = 0 := by
        have hpos : (2 : ℚ) ^ e ≠ 0 := by positivity
        exact Nat.cast_eq_zero.1 ((mul_eq_zero.1 hzero).resolve_right hpos)
      have hn : n = 0 := by
        rw [hzero, neg_zero] at hsame
        exact Nat.cast_eq_zero.1 hsame.symm
      subst hm hn
      rw [Binary64.toInt?, Nat.zero_mod]
      simp

theorem ofInt_natCast (n : Nat) : ofInt n = ofQuotient false n 1 := by
  rw [ofInt, Int.natAbs_natCast, decide_eq_false (Int.not_lt.2 (Int.natCast_nonneg n))]

/-- The values out of reach that are settled at once are those that would round to infinity. -/
theorem ofDecimal_whole (n : Nat) : ofDecimal false n 0 = ofQuotient false n 1 := by
  by_cases hn : n = 0
  · subst hn
    rfl
  · rw [ofDecimal, if_neg (by omega)]
    split
    · next hlong =>
      rw [add_zero] at hlong
      have hlarge : 2 ^ 1024 ≤ n := by
        refine Nat.le_trans (by decide +kernel : 2 ^ 1024 ≤ 10 ^ 330) (Nat.not_lt.1 fun hlt => ?_)
        have hshort := (Nat.length_toDigits_le_iff (by decide) (by decide)).2 hlt
        omega
      exact (ofQuotient_infinite Nat.one_pos (le_refl 1024) ((Nat.one_mul _).trans_le hlarge)).symm
    · exact congrArg₂ (ofQuotient false) (Nat.mul_one n) rfl

theorem ofQuotient_one_nearest (n : Nat) : (ofQuotient false n 1).Nearest n := by
  have hnearest := ofQuotient_nearest n Nat.one_pos
  rwa [Nat.cast_one, div_one] at hnearest

/-- The double is what the whole number becomes: itself if it has at most 53 binary digits, and
else nothing below those with more. -/
structure StandsFor (x : Binary64) (n : Nat) : Prop where
  exact : n < 2 ^ 53 → x.toInt? = some (n : Int)
  large : 2 ^ 53 ≤ n → AtLeast (2 ^ 53) x

theorem ofQuotient_standsFor (n : Nat) : (ofQuotient false n 1).StandsFor n :=
  ⟨(ofQuotient_one_nearest n).toInt?, fun h =>
    ofQuotient_atLeast Nat.one_pos ((Nat.one_mul _).trans_le h)⟩

end Binary64

end CoordinatorGateway
