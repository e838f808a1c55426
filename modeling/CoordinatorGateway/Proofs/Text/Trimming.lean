import CoordinatorGateway.Unicode.Classes
import Mathlib.Data.List.TakeWhile

namespace CoordinatorGateway.Text

open Unicode

variable {l r w : List Char}

theorem isBlank_eq_false {c : Char} (h : 33 ≤ c.toNat ∧ c.toNat ≤ 126) : isBlank c = false := by
  rw [← Bool.not_eq_true]
  intro hblank
  obtain ⟨r, hr, hin⟩ := List.any_eq_true.1 hblank
  rw [Bool.and_eq_true, decide_eq_true_eq, decide_eq_true_eq] at hin
  have hapart : ∀ r ∈ blankRanges, r.2 < 33 ∨ 126 < r.1 := by decide
  have hout := hapart r hr
  omega

theorem exists_blanks (cs : List Char) :
    ∃ l r, cs = l ++ (trimChars cs ++ r) ∧ (∀ c ∈ l, isBlank c = true) ∧
      ∀ c ∈ r, isBlank c = true := by
  refine ⟨cs.takeWhile isBlank, ((cs.dropWhile isBlank).reverse.takeWhile isBlank).reverse, ?_,
    fun c hc => List.mem_takeWhile_imp hc,
    fun c hc => List.mem_takeWhile_imp (List.mem_reverse.1 hc)⟩
  rw [trimChars, ← List.reverse_append, List.takeWhile_append_dropWhile, List.reverse_reverse,
    List.takeWhile_append_dropWhile]

theorem isBlank_of_mem_head?_dropWhile {cs : List Char} {c : Char}
    (h : c ∈ (cs.dropWhile isBlank).head?) : isBlank c = false := by
  have hhead := List.head?_dropWhile_not isBlank cs
  rwa [Option.mem_def.1 h] at hhead

/-- The second text is the first one without the blanks around it. -/
structure Trims (text trimmed : List Char) : Prop where
  around : ∃ l r, text = l ++ (trimmed ++ r) ∧ (∀ c ∈ l, isBlank c = true) ∧
    ∀ c ∈ r, isBlank c = true
  first : ∀ c ∈ trimmed.head?, isBlank c = false
  last : ∀ c ∈ trimmed.getLast?, isBlank c = false

theorem trims_trimChars (cs : List Char) : Trims cs (trimChars cs) where
  around := exists_blanks cs
  first c hc := by
    -- Cutting at the end leaves the first character in its place.
    rw [trimChars, List.head?_reverse] at hc
    obtain ⟨t, ht⟩ := List.dropWhile_suffix (l := (cs.dropWhile isBlank).reverse) isBlank
    have hlast : c ∈ (cs.dropWhile isBlank).reverse.getLast? := by
      rw [← ht, List.getLast?_append, Option.mem_def.1 hc]
      rfl
    rw [List.getLast?_reverse] at hlast
    exact isBlank_of_mem_head?_dropWhile hlast
  last c hc := by
    rw [trimChars, List.getLast?_reverse] at hc
    exact isBlank_of_mem_head?_dropWhile hc

theorem trimChars_eq_nil_iff {cs : List Char} :
    trimChars cs = [] ↔ ∀ c ∈ cs, isBlank c = true := by
  obtain ⟨⟨l, r, hcs, hl, hr⟩, hfirst, -⟩ := trims_trimChars cs
  constructor
  · intro hnil
    rw [hcs, hnil, List.nil_append, List.forall_mem_append]
    exact ⟨hl, hr⟩
  · intro hblank
    rw [← List.head?_eq_none_iff, Option.eq_none_iff_forall_not_mem]
    intro c hc
    have hmem : c ∈ cs := by
      rw [hcs]
      exact List.mem_append_right l (List.mem_append_left r (List.mem_of_head? hc))
    exact Bool.false_ne_true ((hfirst c hc).symm.trans (hblank c hmem))

theorem isEmpty_trim_iff {s : String} :
    (trim s).isEmpty = true ↔ ∀ c ∈ s.toList, isBlank c = true := by
  rw [String.isEmpty_iff, trim, String.ofList_eq_empty_iff, trimChars_eq_nil_iff]

theorem dropWhile_append_of_notBlank (hne : w ≠ []) (hw : ∀ c ∈ w, isBlank c = false)
    (cs : List Char) : (w ++ cs).dropWhile isBlank = w ++ cs := by
  cases w with
  | nil => exact absurd rfl hne
  | cons c w => exact List.dropWhile_cons_of_neg (Bool.eq_false_iff.1 (hw c List.mem_cons_self))

theorem trimEndChars_of_notBlank (hw : ∀ c ∈ w, isBlank c = false) : trimEndChars w = w := by
  cases hreverse : w.reverse with
  | nil =>
    rw [List.reverse_eq_nil_iff.1 hreverse]
    rfl
  | cons c cs =>
    have hlast := dropWhile_append_of_notBlank (w := w.reverse)
      (by rw [hreverse]; exact List.cons_ne_nil c cs) (fun c hc => hw c (List.mem_reverse.1 hc)) []
    rw [List.append_nil] at hlast
    rw [trimEndChars, hlast, List.reverse_reverse]

theorem trimChars_append (hl : ∀ c ∈ l, isBlank c = true) (hne : w ≠ [])
    (hw : ∀ c ∈ w, isBlank c = false) (hr : ∀ c ∈ r, isBlank c = true) :
    trimChars (l ++ (w ++ r)) = w := by
  have hfront : (l ++ (w ++ r)).dropWhile isBlank = w ++ r := by
    rw [List.dropWhile_append_of_pos hl, dropWhile_append_of_notBlank hne hw]
  have hback : (w ++ r).reverse.dropWhile isBlank = w.reverse.dropWhile isBlank := by
    rw [List.reverse_append, List.dropWhile_append_of_pos fun c hc => hr c (List.mem_reverse.1 hc)]
  rw [trimChars, hfront, hback]
  exact trimEndChars_of_notBlank hw

theorem dropWhile_of_head? {cs : List Char} (h : ∀ c ∈ cs.head?, isBlank c = false) :
    cs.dropWhile isBlank = cs := by
  cases cs with
  | nil => rfl
  | cons c cs => exact List.dropWhile_cons_of_neg (Bool.eq_false_iff.1 (h c rfl))

theorem trimChars_eq_self_iff {cs : List Char} : trimChars cs = cs ↔
    (∀ c ∈ cs.head?, isBlank c = false) ∧ ∀ c ∈ cs.getLast?, isBlank c = false := by
  constructor
  · intro h
    obtain ⟨-, hfirst, hlast⟩ := trims_trimChars cs
    rw [h] at hfirst hlast
    exact ⟨hfirst, hlast⟩
  · rintro ⟨hfirst, hlast⟩
    rw [← List.head?_reverse] at hlast
    rw [trimChars, dropWhile_of_head? hfirst, dropWhile_of_head? hlast, List.reverse_reverse]

end CoordinatorGateway.Text
