import CoordinatorGateway.Proofs.Text.Utf8
import CoordinatorGateway.Validation.Identifier
import Mathlib.Tactic.SplitIfs

namespace CoordinatorGateway.Identifier

/-- What a name of a job, a block, a worker or a request is. -/
structure WellFormed (id : String) : Prop where
  nonempty : 1 ≤ id.length
  short : id.length ≤ 128
  characters : ∀ c ∈ id.toList, 'A' ≤ c ∧ c ≤ 'Z' ∨ 'a' ≤ c ∧ c ≤ 'z' ∨ '0' ≤ c ∧ c ≤ '9' ∨
    c = '_' ∨ c = '-'
  free : id ∉ ["undefined", "null", "true", "false"]

theorem isAllowed_iff {c : Char} : isAllowed c = true ↔
    'A' ≤ c ∧ c ≤ 'Z' ∨ 'a' ≤ c ∧ c ≤ 'z' ∨ '0' ≤ c ∧ c ≤ '9' ∨ c = '_' ∨ c = '-' := by
  delta isAllowed Char.isAlphanum Char.isAlpha Char.isUpper Char.isLower Char.isDigit
  simp only [Bool.or_eq_true, Bool.and_eq_true, decide_eq_true_eq, beq_iff_eq, or_assoc]
  rfl

theorem utf8ByteSize_of_allowed {id : String} (h : ∀ c ∈ id.toList, isAllowed c = true) :
    id.utf8ByteSize = id.length := by
  have hascii : ∀ c ∈ id.toList, c.toNat < 128 := by
    intro c hc
    have hallowed := h c hc
    simp only [isAllowed, Bool.or_eq_true, beq_iff_eq] at hallowed
    obtain (halphanum | rfl) | rfl := hallowed
    · exact Unicode.toNat_lt_of_isAlphanum halphanum
    · decide
    · decide
  rw [← Bytes.length_ofText, Bytes.ofText_of_ascii hascii, List.length_map, String.length_toList]

theorem fault?_eq_none_iff {id : String} : fault? id = none ↔ WellFormed id := by
  have hempty : id.isEmpty = true ↔ ¬1 ≤ id.length := by
    rw [String.isEmpty_iff, ← String.length_eq_zero_iff]
    omega
  have hallowed : (!id.toList.all isAllowed) = true ↔ ¬∀ c ∈ id.toList, isAllowed c = true := by
    rw [Bool.not_eq_true', Bool.eq_false_iff, Ne, List.all_eq_true]
  rw [fault?]
  constructor
  · intro h
    split_ifs at h with hblank hlong hother hreserved
    rw [hempty, Classical.not_not] at hblank
    rw [hallowed, Classical.not_not] at hother
    rw [List.contains_iff_mem] at hreserved
    rw [utf8ByteSize_of_allowed hother, Nat.not_lt] at hlong
    exact ⟨hblank, hlong, fun c hc => isAllowed_iff.1 (hother c hc), hreserved⟩
  · intro h
    have hother : ∀ c ∈ id.toList, isAllowed c = true :=
      fun c hc => isAllowed_iff.2 (h.characters c hc)
    have hlong : ¬maxLength < id.utf8ByteSize := by
      rw [utf8ByteSize_of_allowed hother]
      exact Nat.not_lt.2 h.short
    have hreserved : ¬reserved.contains id = true := mt List.contains_iff_mem.1 h.free
    rw [if_neg (mt hempty.1 (Classical.not_not.2 h.nonempty)), if_neg hlong,
      if_neg (mt hallowed.1 (Classical.not_not.2 hother)), if_neg hreserved]

theorem check_eq_ok_iff {label id : String} {u : Unit} :
    check label id = .ok u ↔ fault? id = none := by
  rw [check]
  cases fault? id <;> simp

theorem exists_check_error {id : String} (h : ¬WellFormed id) (label : String) :
    ∃ f, check label id = .error f := by
  cases hcheck : check label id with
  | error f => exact ⟨f, rfl⟩
  | ok u => exact absurd (fault?_eq_none_iff.1 (check_eq_ok_iff.1 hcheck)) h

end CoordinatorGateway.Identifier
