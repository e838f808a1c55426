import CoordinatorGateway.Proofs.Redaction.Leftovers
import CoordinatorGateway.Proofs.Text.Words

namespace CoordinatorGateway

open Unicode Text

namespace Rule

/-- No match of the body lies in the word, wherever the word stands. -/
def Spares (rule : Rule) (w : List Char) : Prop :=
  ∀ ⦃x y z r b⦄, w = x ++ (y ++ z) → IsGap b → IsGap r.head? →
    ¬ rule.body.Matches (x.getLast?.or b) y (z ++ r)

/-- Matches of the body hold no blanks. -/
def Unbroken (rule : Rule) : Prop :=
  ∀ ⦃b u r⦄, rule.body.Matches b u r → ∀ c ∈ u, isBlank c = false

variable {rule : Rule} {cs out lead body w x v z : List Char} {b : Option Char}

theorem Finds.isSolid (h : rule.Finds b lead body cs) (hregular : rule.Regular)
    (hunbroken : rule.Unbroken) : IsSolid body :=
  ⟨hregular.body h.matches.2, hunbroken h.matches.2⟩

theorem exists_of_lead {t ys : List Char} (hlead : lead.length ≤ 1) (hx : x ≠ [])
    (h : lead ++ ys = x ++ t) : ∃ s, x = lead ++ s ∧ ys = s ++ t := by
  have hpos := List.length_pos_of_ne_nil hx
  rcases List.append_eq_append_iff.1 h with ⟨s, hs, hys⟩ | ⟨s, hs, ht⟩
  · exact ⟨s, hs, hys⟩
  · rw [hs, List.length_append] at hlead
    obtain rfl : s = [] := List.length_eq_zero_iff.1 (by omega)
    rw [List.append_nil] at hs
    exact ⟨[], by rw [hs, List.append_nil], ht.symm⟩

theorem Spares.not_finds (hspares : rule.Spares w) (hregular : rule.Regular)
    (hunbroken : rule.Unbroken) (hw : w = x ++ v) (hv : v ≠ []) (hb : IsGap b)
    (hz : IsGap z.head?) (hsplit : lead ++ body ++ cs = v ++ z) :
    ¬ rule.Finds (x.getLast?.or b) lead body cs := by
  intro hfinds
  rw [List.append_assoc] at hsplit
  obtain ⟨v', rfl, hbody⟩ := exists_of_lead (hregular.lead hfinds.matches.1) hv hsplit
  obtain ⟨t, rfl, rfl⟩ := exists_of_append_eq hbody (hfinds.isSolid hregular hunbroken).notBlank hz
  have hmatch := hfinds.matches.2
  rw [← getLast?_append_or] at hmatch
  exact hspares (by rw [hw, List.append_assoc]) hb hz hmatch

/-- No match reaches into a spared word from before it. -/
theorem Spares.not_finds_before {t : List Char} (hspares : rule.Spares w) (hregular : rule.Regular)
    (hunbroken : rule.Unbroken) (hx : x ≠ []) (hgap : IsGap (x.getLast?.or b)) (hz : IsGap z.head?)
    (hin : lead ++ body = x ++ t) (hout : w ++ z = t ++ cs) :
    ¬ rule.Finds b lead body cs := by
  intro hfinds
  have hsolid := (hfinds.isSolid hregular hunbroken).notBlank
  obtain ⟨s, rfl, rfl⟩ := exists_of_lead (hregular.lead hfinds.matches.1) hx hin
  rcases List.eq_nil_or_concat s with rfl | ⟨s, e, rfl⟩
  · rw [List.append_nil] at hgap
    obtain ⟨v, rfl, rfl⟩ := exists_of_append_eq hout.symm hsolid hz
    exact @hspares [] t v z (lead.getLast?.or b) rfl hgap hz hfinds.matches.2
  · rw [List.concat_eq_append, getLast?_append_or, List.getLast?_concat, Option.some_or, isGap_some,
      hsolid e (by simp)] at hgap
    cases hgap

namespace Rewrites

theorem isGap_head? (h : rule.Rewrites b cs out) (hregular : rule.Regular)
    (hunbroken : rule.Unbroken) (hcs : IsGap cs.head?) : IsGap out.head? := by
  rcases h.continues hregular with hsame | ⟨-, b', lead, body, rest, rfl, -, hfinds⟩
  · rw [hsame]
    exact hcs
  · obtain ⟨hne, hsolid⟩ := hfinds.isSolid hregular hunbroken
    obtain ⟨c, body, rfl⟩ := List.exists_cons_of_ne_nil hne
    have hblank := isGap_some.1 hcs
    rw [hsolid c List.mem_cons_self] at hblank
    cases hblank

theorem keeps_rest (h : rule.Rewrites (x.getLast?.or b) (v ++ z) out) (hregular : rule.Regular)
    (hunbroken : rule.Unbroken) (hspares : rule.Spares w) (hw : w = x ++ v) (hb : IsGap b)
    (hz : IsGap z.head?) : ∃ z', out = v ++ z' ∧ IsGap z'.head? := by
  induction v generalizing x out with
  | nil => exact ⟨out, rfl, h.isGap_head? hregular hunbroken hz⟩
  | cons c v ih =>
    generalize hcs : c :: v ++ z = cs at h
    cases h with
    | done => cases hcs
    | @keep _ _ _ out _ hrest =>
      obtain ⟨rfl, rfl⟩ := List.cons.inj hcs
      have hrest' : rule.Rewrites ((x ++ [c]).getLast?.or b) (v ++ z) out := by
        rw [List.getLast?_concat]
        exact hrest
      obtain ⟨z', rfl, hz'⟩ := ih hrest' (by rw [hw, List.append_assoc, List.singleton_append])
      exact ⟨z', rfl, hz'⟩
    | swap hfinds _ =>
      exact absurd hfinds
        (hspares.not_finds hregular hunbroken hw (List.cons_ne_nil c v) hb hz hcs.symm)

theorem keeps_word (h : rule.Rewrites b cs out) (hregular : rule.Regular)
    (hunbroken : rule.Unbroken) (hspares : rule.Spares w) (hne : w ≠ [])
    (hcs : cs = x ++ (w ++ z)) (hx : IsGap (x.getLast?.or b)) (hz : IsGap z.head?) :
    ∃ x' z', out = x' ++ (w ++ z') ∧ IsGap (x'.getLast?.or b) ∧ IsGap z'.head? := by
  have hfirst {out : List Char} {b : Option Char} (h : rule.Rewrites b (w ++ z) out)
      (hb : IsGap b) : ∃ x' z', out = x' ++ (w ++ z') ∧ IsGap (x'.getLast?.or b) ∧
        IsGap z'.head? := by
    have hrest : rule.Rewrites (([] : List Char).getLast?.or b) (w ++ z) out := h
    obtain ⟨z', rfl, hz'⟩ := hrest.keeps_rest hregular hunbroken hspares rfl hb hz
    exact ⟨[], z', rfl, hb, hz'⟩
  induction h generalizing x with
  | done =>
    obtain ⟨-, hnil⟩ := List.append_eq_nil_iff.1 hcs.symm
    exact absurd (List.append_eq_nil_iff.1 hnil).1 hne
  | @keep b c cs out hnone hrest ih =>
    cases x with
    | nil => exact hfirst (hcs ▸ .keep hnone hrest) hx
    | cons d x =>
      obtain ⟨rfl, rfl⟩ := List.cons.inj hcs
      rw [← List.singleton_append, getLast?_append_or] at hx
      obtain ⟨x', z', rfl, hx', hz'⟩ := ih rfl hx
      refine ⟨c :: x', z', rfl, ?_, hz'⟩
      rw [← List.singleton_append, getLast?_append_or]
      exact hx'
  | @swap b lead body cs out hfinds hrest ih =>
    obtain ⟨hbody, hsolid⟩ := hfinds.isSolid hregular hunbroken
    have hlast (o : Option Char) : ¬ IsGap ((lead ++ body).getLast?.or o) := by
      rw [getLast?_append_or]
      exact not_isGap_getLast? hbody hsolid
    rcases List.append_eq_append_iff.1 hcs with ⟨x, rfl, rfl⟩ | ⟨t, hin, hout⟩
    · rw [getLast?_append_or] at hx
      obtain ⟨x', z', rfl, hx', hz'⟩ := ih rfl hx
      refine ⟨lead ++ rule.token ++ x', z', by simp only [List.append_assoc], ?_, hz'⟩
      cases x' with
      | nil => exact absurd hx' (hlast b)
      | cons c x' =>
        rw [getLast?_append_or]
        rw [List.getLast?_cons, Option.some_or] at hx' ⊢
        exact hx'
    · cases x with
      | nil => exact hfirst (hcs ▸ .swap hfinds hrest) hx
      | cons d x =>
        exact absurd hfinds (hspares.not_finds_before hregular hunbroken (List.cons_ne_nil d x) hx
          hz hin hout)

end Rewrites

theorem mem_words_apply (hregular : rule.Regular) (hunbroken : rule.Unbroken)
    (hspares : rule.Spares w) (h : w ∈ words cs) : w ∈ words (rule.apply cs) := by
  obtain ⟨hw, x, z, rfl, hx, hz⟩ := mem_words_iff.1 h
  rw [← Option.or_none (o := x.getLast?)] at hx
  obtain ⟨x', z', hout, hx', hz'⟩ :=
    (rewrites_apply hregular _).keeps_word hregular hunbroken hspares hw.ne_nil rfl hx hz
  rw [Option.or_none] at hx'
  exact mem_words_iff.2 ⟨hw, x', z', hout, hx', hz'⟩

theorem Joins.isGap (h : rule.Joins none x v cs) (hx : IsGap x.getLast?) : IsGap v.getLast? := by
  rcases h with hsame | ⟨hend, -⟩
  · rw [Option.or_none, Option.or_none] at hsame
    rw [← hsame]
    exact hx
  · rw [hend, isGap_some] at hx
    cases hx

theorem Continues.isGap (h : rule.Continues b z v) (hz : IsGap z.head?) : IsGap v.head? := by
  rcases h with hsame | ⟨hstart, -⟩
  · rw [← hsame]
    exact hz
  · rw [hstart, isGap_some] at hz
    cases hz

theorem mem_words_of_apply (hregular : rule.Regular) (hopen : '[' ∉ w) (hclose : ']' ∉ w)
    (hpivot : ∃ c ∈ w, c.isLower = false) (hlength : 1 < w.length)
    (h : w ∈ words (rule.apply cs)) : w ∈ words cs := by
  obtain ⟨hw, x, z, hout, hx, hz⟩ := mem_words_iff.1 h
  obtain ⟨x', z', rfl, hjoins, hcontinues, -⟩ :=
    kept_of_apply hregular hout hopen hclose hpivot hlength
  exact mem_words_iff.2 ⟨hw, x', z', rfl, hjoins.isGap hx, hcontinues.isGap hz⟩

variable {rs : List Rule}

theorem mem_words_foldl (hrules : ∀ rule ∈ rs, rule.Regular ∧ rule.Unbroken ∧ rule.Spares w)
    (h : w ∈ words cs) : w ∈ words (rs.foldl (fun text rule => rule.apply text) cs) := by
  induction rs generalizing cs with
  | nil => exact h
  | cons rule rs ih =>
    rw [List.forall_mem_cons] at hrules
    obtain ⟨⟨hregular, hunbroken, hspares⟩, hrest⟩ := hrules
    exact ih hrest (mem_words_apply hregular hunbroken hspares h)

theorem mem_words_of_foldl (hrules : ∀ rule ∈ rs, rule.Regular) (hopen : '[' ∉ w)
    (hclose : ']' ∉ w) (hpivot : ∃ c ∈ w, c.isLower = false) (hlength : 1 < w.length)
    (h : w ∈ words (rs.foldl (fun text rule => rule.apply text) cs)) : w ∈ words cs := by
  induction rs generalizing cs with
  | nil => exact h
  | cons rule rs ih =>
    rw [List.forall_mem_cons] at hrules
    exact mem_words_of_apply hrules.1 hopen hclose hpivot hlength (ih hrules.2 h)

end Rule

theorem Redaction.rules_unbroken : ∀ rule ∈ rules, rule.Unbroken := by
  intro rule hrule b u r hmatch c hc
  have hnone (c : Char) (hblank : isBlank c = true) : rule.body.mayHold c = false := by
    have hall := forall_blank (P := fun c => rules.all fun rule => !rule.body.mayHold c)
      (by decide +kernel) hblank
    simpa using List.all_eq_true.1 hall rule hrule
  rw [Bool.eq_false_iff]
  intro hblank
  exact Pattern.not_mem_of_matches (hnone c hblank) hmatch hc

end CoordinatorGateway
