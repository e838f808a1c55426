import CoordinatorGateway.Proofs.Redaction.Search

namespace CoordinatorGateway.Pattern

variable {p q : Pattern} {b b' : Option Char} {u w r r' : List Char}

def minLength : Pattern → Nat
  | .nothing | .wordEdge | .textStart | .many _ => 0
  | .char _ => 1
  | .seq p q => p.minLength + q.minLength
  | .either p q => min p.minLength q.minLength

theorem minLength_le (h : p.Matches b w r) : p.minLength ≤ w.length := by
  induction h with
  | nothing => exact Nat.le_refl 0
  | char => exact Nat.le_refl 1
  | wordEdge => exact Nat.le_refl 0
  | textStart => exact Nat.le_refl 0
  | seq _ _ ihu ihv =>
    rw [List.length_append]
    exact Nat.add_le_add ihu ihv
  | left _ ih => exact Nat.le_trans (Nat.min_le_left _ _) ih
  | right _ ih => exact Nat.le_trans (Nat.min_le_right _ _) ih
  | manyNil => exact Nat.zero_le _
  | manyCons => exact Nat.zero_le _

theorem ne_nil_of_matches (hp : 0 < p.minLength) (h : p.Matches b w r) : w ≠ [] :=
  List.ne_nil_of_length_pos (Nat.lt_of_lt_of_le hp (minLength_le h))

def mayHold (c : Char) : Pattern → Bool
  | .nothing | .wordEdge | .textStart => false
  | .char admits => admits c
  | .seq p q | .either p q => p.mayHold c || q.mayHold c
  | .many p => p.mayHold c

theorem mayHold_of_mem (h : p.Matches b w r) {c : Char} (hc : c ∈ w) : p.mayHold c = true := by
  induction h with
  | nothing => cases hc
  | char hadmits =>
    obtain rfl := List.mem_singleton.1 hc
    exact hadmits
  | wordEdge => cases hc
  | textStart => cases hc
  | seq _ _ ihu ihv =>
    rw [mayHold, Bool.or_eq_true]
    exact (List.mem_append.1 hc).imp ihu ihv
  | left _ ih =>
    rw [mayHold, ih hc, Bool.true_or]
  | right _ ih =>
    rw [mayHold, ih hc, Bool.or_true]
  | manyNil => cases hc
  | manyCons _ _ ihu ihv =>
    rcases List.mem_append.1 hc with hu | hv
    · exact ihu hu
    · exact ihv hv

theorem not_mem_of_matches {c : Char} (hp : p.mayHold c = false) (h : p.Matches b w r) :
    c ∉ w := by
  intro hc
  have hhold := mayHold_of_mem h hc
  rw [hp] at hhold
  cases hhold

theorem matches_upTo_char_iff {f : Char → Bool} {n : Nat} :
    (upTo (.char f) n).Matches b w r ↔ w.length ≤ n ∧ ∀ c ∈ w, f c = true := by
  induction n generalizing b w with
  | zero =>
    rw [upTo, matches_nothing_iff, Nat.le_zero, List.length_eq_zero_iff]
    constructor
    · rintro rfl
      exact ⟨rfl, fun c hc => by cases hc⟩
    · exact And.left
  | succ n ih =>
    rw [upTo, matches_optional_iff, matches_seq_iff]
    constructor
    · rintro (⟨_, v, rfl, hfirst, hv⟩ | rfl)
      · obtain ⟨c, hc, rfl⟩ := matches_char_iff.1 hfirst
        obtain ⟨hlength, hall⟩ := ih.1 hv
        exact ⟨Nat.succ_le_succ hlength, List.forall_mem_cons.2 ⟨hc, hall⟩⟩
      · exact ⟨Nat.zero_le _, fun c hc => by cases hc⟩
    · rintro ⟨hlength, hall⟩
      cases w with
      | nil => exact .inr rfl
      | cons c v =>
        rw [List.forall_mem_cons] at hall
        exact .inl ⟨[c], v, rfl, .char hall.1, ih.2 ⟨Nat.le_of_succ_le_succ hlength, hall.2⟩⟩

def isFree : Pattern → Bool
  | .nothing | .char _ => true
  | .wordEdge | .textStart => false
  | .seq p q | .either p q => p.isFree && q.isFree
  | .many p => p.isFree

theorem matches_anywhere (hp : p.isFree = true) (h : p.Matches b w r) (b' : Option Char)
    (r' : List Char) : p.Matches b' w r' := by
  induction h generalizing b' r' with
  | nothing => exact .nothing
  | char hadmits => exact .char hadmits
  | wordEdge => cases hp
  | textStart => cases hp
  | seq _ _ ihu ihv =>
    rw [isFree, Bool.and_eq_true] at hp
    exact .seq (ihu hp.1 _ _) (ihv hp.2 _ _)
  | left _ ih =>
    rw [isFree, Bool.and_eq_true] at hp
    exact .left (ih hp.1 _ _)
  | right _ ih =>
    rw [isFree, Bool.and_eq_true] at hp
    exact .right (ih hp.2 _ _)
  | manyNil => exact .manyNil
  | manyCons _ _ ihu ihv => exact .manyCons (ihu hp _ _) (ihv hp _ _)

theorem matches_literal_iff {cs : List Char} : (literal cs).Matches b w r ↔ w = cs := by
  induction cs generalizing b w r with
  | nil => exact matches_nothing_iff
  | cons c cs ih =>
    cases cs with
    | nil =>
      rw [literal, matches_char_iff]
      simp
    | cons d cs =>
      change (seq (.char (· == c)) (literal (d :: cs))).Matches b w r ↔ _
      rw [matches_seq_iff]
      constructor
      · rintro ⟨u, v, rfl, hu, hv⟩
        obtain ⟨e, he, rfl⟩ := matches_char_iff.1 hu
        rw [ih.1 hv, beq_iff_eq.1 he, List.singleton_append]
      · rintro rfl
        exact ⟨[c], d :: cs, rfl, .char (beq_self_eq_true c), ih.2 rfl⟩

theorem matches_sequence_append_iff (ps qs : List Pattern) (hps : ps ≠ []) (hqs : qs ≠ []) :
    (sequence (ps ++ qs)).Matches b w r ↔ (seq (sequence ps) (sequence qs)).Matches b w r := by
  induction ps generalizing b w r with
  | nil => exact absurd rfl hps
  | cons p ps ih =>
    cases ps with
    | nil =>
      obtain ⟨q, qs, rfl⟩ := List.exists_cons_of_ne_nil hqs
      rfl
    | cons p' ps =>
      have ih {b : Option Char} {w : List Char} := @ih b w r (List.cons_ne_nil p' ps)
      change (seq p (sequence (p' :: ps ++ qs))).Matches b w r ↔
        (seq (seq p (sequence (p' :: ps))) (sequence qs)).Matches b w r
      constructor
      · intro h
        obtain ⟨u, v, rfl, hu, hv⟩ := matches_seq_iff.1 h
        obtain ⟨v, v', rfl, hv, hv'⟩ := matches_seq_iff.1 (ih.1 hv)
        rw [List.append_assoc] at hu
        rw [← List.append_assoc]
        refine .seq (.seq hu hv) ?_
        rw [getLast?_append_or]
        exact hv'
      · intro h
        obtain ⟨u, v', rfl, huv, hv'⟩ := matches_seq_iff.1 h
        obtain ⟨u, v, rfl, hu, hv⟩ := matches_seq_iff.1 huv
        rw [getLast?_append_or] at hv'
        rw [← List.append_assoc] at hu
        rw [List.append_assoc]
        exact .seq hu (ih.2 (.seq hv hv'))

end CoordinatorGateway.Pattern
