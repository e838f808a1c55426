import CoordinatorGateway.Proofs.Text.Pieces
import CoordinatorGateway.Unicode.Classes

namespace CoordinatorGateway.Text

open Unicode

def words (cs : List Char) : List (List Char) := (splitWhen isBlank cs).filter (· ≠ [])

/-- There is no character, or a blank. -/
def IsGap (b : Option Char) : Prop := ∀ c ∈ b, isBlank c = true

structure IsSolid (w : List Char) : Prop where
  ne_nil : w ≠ []
  notBlank : ∀ c ∈ w, isBlank c = false

variable {cs l r u v w x y z : List Char} {b o : Option Char} {c : Char}

theorem isGap_none : IsGap none := fun _ hc => by cases hc

theorem isGap_some : IsGap (some c) ↔ isBlank c = true :=
  ⟨fun h => h c rfl, fun h _ hd => Option.some.inj hd ▸ h⟩

theorem IsGap.or (h : IsGap b) (ho : IsGap o) : IsGap (o.or b) := by
  cases o with
  | none => exact h
  | some c => exact ho

theorem not_isGap_getLast? (hu : u ≠ []) (hsolid : ∀ c ∈ u, isBlank c = false) :
    ¬ IsGap (u.getLast?.or b) := by
  rw [List.getLast?_eq_some_getLast hu, Option.some_or, isGap_some,
    hsolid _ (List.getLast_mem hu)]
  exact Bool.false_ne_true

theorem words_append_cons (hc : isBlank c = true) (x y : List Char) :
    words (x ++ c :: y) = words x ++ words y := by
  simp only [words, splitWhen_eq_splitOnP, List.splitOnP_append_cons x y hc, List.filter_append]

theorem words_of_notBlank (h : ∀ c ∈ cs, isBlank c = false) : words cs = [cs].filter (· ≠ []) := by
  rw [words, splitWhen_eq_splitOnP, List.splitOnP_eq_singleton h]

theorem words_of_isSolid (h : IsSolid w) : words w = [w] := by
  rw [words_of_notBlank h.notBlank]
  simp [h.ne_nil]

theorem words_append_left (hl : ∀ c ∈ l, isBlank c = true) (cs : List Char) :
    words (l ++ cs) = words cs := by
  induction l with
  | nil => rfl
  | cons c l ih =>
    rw [List.forall_mem_cons] at hl
    rw [← ih hl.2]
    exact words_append_cons hl.1 [] (l ++ cs)

theorem words_append_right (hr : ∀ c ∈ r, isBlank c = true) (cs : List Char) :
    words (cs ++ r) = words cs := by
  cases r with
  | nil => rw [List.append_nil]
  | cons c r =>
    rw [List.forall_mem_cons] at hr
    have hnone := words_append_left hr.2 []
    rw [List.append_nil] at hnone
    rw [words_append_cons hr.1, hnone]
    exact List.append_nil _

theorem exists_of_mem_words {cs w : List Char} (h : w ∈ words cs) :
    IsSolid w ∧ ∃ x z, cs = x ++ (w ++ z) ∧ IsGap x.getLast? ∧ IsGap z.head? := by
  by_cases hblank : ∃ c ∈ cs, isBlank c = true
  · obtain ⟨c, hc, hcblank⟩ := hblank
    obtain ⟨p, q, hcs⟩ := List.append_of_mem hc
    have hlength : cs.length = p.length + (q.length + 1) := by
      rw [hcs, List.length_append, List.length_cons]
    rw [hcs, words_append_cons hcblank, List.mem_append] at h
    rcases h with h | h
    · obtain ⟨hw, x, z, rfl, hx, hz⟩ := exists_of_mem_words h
      refine ⟨hw, x, z ++ c :: q, by simp only [hcs, List.append_assoc], hx, ?_⟩
      rw [List.head?_append]
      exact (isGap_some.2 hcblank).or hz
    · obtain ⟨hw, x, z, rfl, hx, hz⟩ := exists_of_mem_words h
      refine ⟨hw, p ++ c :: x, z, by simp only [hcs, List.append_assoc, List.cons_append], ?_, hz⟩
      rw [List.getLast?_append, List.getLast?_cons, Option.some_or, isGap_some]
      cases hlast : x.getLast? with
      | none => exact hcblank
      | some d => exact hx d hlast
  · have hsolid (c : Char) (hc : c ∈ cs) : isBlank c = false :=
      Bool.eq_false_iff.2 fun hcblank => hblank ⟨c, hc, hcblank⟩
    rw [words_of_notBlank hsolid, List.mem_filter, List.mem_singleton] at h
    obtain ⟨rfl, hne⟩ := h
    exact ⟨⟨of_decide_eq_true hne, hsolid⟩, [], [], by simp, isGap_none, isGap_none⟩
termination_by cs.length
decreasing_by all_goals omega

theorem words_append_of_gaps (hx : IsGap x.getLast?) (hz : IsGap z.head?) :
    words (x ++ (w ++ z)) = words x ++ (words w ++ words z) := by
  have hright : words (w ++ z) = words w ++ words z := by
    cases z with
    | nil => simp [words, splitWhen]
    | cons c z =>
      have hc := isGap_some.1 hz
      rw [words_append_cons hc]
      exact congrArg _ (words_append_cons hc [] z).symm
  rcases List.eq_nil_or_concat x with rfl | ⟨x, c, rfl⟩
  · exact hright
  · rw [List.concat_eq_append] at hx ⊢
    rw [List.getLast?_concat, isGap_some] at hx
    rw [List.append_assoc, List.singleton_append, words_append_cons hx, hright,
      words_append_cons hx x []]
    simp [words, splitWhen]

theorem mem_words_iff :
    w ∈ words cs ↔ IsSolid w ∧ ∃ x z, cs = x ++ (w ++ z) ∧ IsGap x.getLast? ∧ IsGap z.head? := by
  constructor
  · exact exists_of_mem_words
  · rintro ⟨hw, x, z, rfl, hx, hz⟩
    rw [words_append_of_gaps hx hz, words_of_isSolid hw]
    simp

/-- A part without blanks ends before the gap. -/
theorem exists_of_append_eq (h : y ++ cs = v ++ z) (hy : ∀ c ∈ y, isBlank c = false)
    (hz : IsGap z.head?) : ∃ t, v = y ++ t ∧ cs = t ++ z := by
  rcases List.append_eq_append_iff.1 h with ⟨t, rfl, rfl⟩ | ⟨t, rfl, rfl⟩
  · exact ⟨t, rfl, rfl⟩
  · cases t with
    | nil => exact ⟨[], by simp, rfl⟩
    | cons c t =>
      have hfalse := hy c (by simp)
      rw [isGap_some.1 hz] at hfalse
      cases hfalse

end CoordinatorGateway.Text
