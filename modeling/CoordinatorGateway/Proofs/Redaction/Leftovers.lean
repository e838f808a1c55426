import CoordinatorGateway.Proofs.Redaction.Rules

namespace CoordinatorGateway

open Unicode

/-- Some part of the text is matched where it stands. -/
def Pattern.Occurs (p : Pattern) (cs : List Char) : Prop :=
  ∃ x y z, cs = x ++ (y ++ z) ∧ p.Matches x.getLast? y z

namespace Rule

def pattern (rule : Rule) : Pattern := .seq rule.lead rule.body

/-- The pattern occurs at a place where the rule finds nothing. -/
def Overlooks (rule : Rule) (p : Pattern) (cs : List Char) : Prop :=
  ∃ x y z, cs = x ++ (y ++ z) ∧ p.Matches x.getLast? y z ∧
    rule.find? ⟨x.getLast?, y ++ z⟩ = none

variable {rule : Rule} {p : Pattern} {cs out : List Char}

theorem Overlooks.occurs (h : rule.Overlooks p cs) : p.Occurs cs := by
  obtain ⟨x, y, z, hcs, hmatch, -⟩ := h
  exact ⟨x, y, z, hcs, hmatch⟩

theorem not_overlooks_pattern (rule : Rule) (cs : List Char) :
    ¬ rule.Overlooks rule.pattern cs := by
  rintro ⟨x, y, z, -, hmatch, hnone⟩
  obtain ⟨lead, body, rfl, hlead, hbody⟩ := Pattern.matches_seq_iff.1 hmatch
  have hsome := find?_isSome hlead hbody
  rw [hnone] at hsome
  cases hsome

theorem matches_pattern_iff {b : Option Char} {w r : List Char} (hlead : rule.lead = .nothing) :
    rule.pattern.Matches b w r ↔ rule.body.Matches b w r := by
  rw [pattern, hlead, Pattern.matches_seq_iff]
  constructor
  · rintro ⟨_, v, rfl, hnothing, hv⟩
    obtain rfl := Pattern.matches_nothing_iff.1 hnothing
    exact hv
  · intro h
    exact ⟨[], w, rfl, .nothing, h⟩

/-- A part of the rewritten text that has no bracket, and a slash, dot or colon, was there
before. -/
theorem kept_of_apply (hregular : rule.Regular) {x y z : List Char}
    (hout : rule.apply cs = x ++ (y ++ z)) (hopen : '[' ∉ y) (hclose : ']' ∉ y)
    (hpivot : ∃ c ∈ y, c.isLower = false) (hlength : 1 < y.length) :
    ∃ x' z', cs = x' ++ (y ++ z') ∧ rule.Joins none x x' (y ++ z') ∧
      rule.Continues (x' ++ y).getLast? z z' ∧ rule.find? ⟨x'.getLast?, y ++ z'⟩ = none := by
  have hrewrites := rewrites_apply hregular cs
  rw [hout] at hrewrites
  obtain ⟨c, hc, hlower⟩ := hpivot
  have hword : c ∉ rule.token := by
    refine hregular.not_mem_token ?_ ?_ hlower
    · rintro rfl
      exact hopen hc
    · rintro rfl
      exact hclose hc
  obtain ⟨x', z', hcs, hjoins, hcontinues, hfind⟩ :=
    hrewrites.kept hregular hopen hclose ⟨c, hc, hword⟩
  rw [Option.or_none] at hcontinues
  have hnone := hfind hlength
  rw [Option.or_none] at hnone
  exact ⟨x', z', hcs, hjoins, hcontinues, hnone⟩

end Rule

namespace Redaction

open Pattern

variable {rule : Rule} {cs : List Char} {c : Char}

/-- Neither do tokens take the place of what a URL cannot go on with, nor are they put before a
letter. -/
structure SparesUrls (rule : Rule) (cs : List Char) : Prop where
  start : ∀ {b lead body rest}, rule.Finds b lead body rest → ∃ c ∈ body.head?, isUrlChar c = true
  stop : ∀ {w lead body rest}, cs = w ++ lead ++ body ++ rest →
    rule.Finds w.getLast? lead body rest → ∀ c ∈ rest.head?, isLetter c = false

theorem overlooks_url (hregular : rule.Regular) (hspares : SparesUrls rule cs)
    (h : url.Occurs (rule.apply cs)) : rule.Overlooks url cs := by
  obtain ⟨x, w, z, hout, hmatch⟩ := h
  obtain ⟨l, s, t, rfl, hl, hs, hne, ht, hx⟩ := url_matches_iff.1 hmatch
  obtain ⟨c, t, rfl⟩ := List.exists_cons_of_ne_nil hne
  have hsplit : l :: (s ++ ':' :: '/' :: '/' :: c :: t) ++ z =
      l :: (s ++ [':', '/', '/']) ++ c :: (t ++ z) := by simp
  rw [hsplit] at hout
  have hclear (d : Char) (hletter : isLetter d = false) (hscheme : isSchemeChar d = false)
      (hrest : d ∉ [':', '/', '/']) : d ∉ l :: (s ++ [':', '/', '/']) := by
    rw [List.mem_cons, List.mem_append, not_or, not_or]
    refine ⟨?_, fun hd => ?_, hrest⟩
    · rintro rfl
      rw [hl] at hletter
      cases hletter
    · rw [hs d hd] at hscheme
      cases hscheme
  obtain ⟨x', z', rfl, hjoins, hcontinues, hnone⟩ := Rule.kept_of_apply hregular hout
    (hclear '[' rfl rfl (by decide)) (hclear ']' rfl rfl (by decide))
    ⟨':', by simp, rfl⟩ (by simp)
  have hx' : x'.getLast?.any isWord = false := by
    rcases hjoins with hsame | ⟨-, v, lead, body, rfl, hfinds⟩
    · rw [Option.or_none, Option.or_none] at hsame
      rw [← hsame]
      exact hx
    · rw [Option.or_none] at hfinds
      have hfalse := hspares.stop rfl hfinds l rfl
      rw [hl] at hfalse
      cases hfalse
  have hz' : ∃ c' ∈ z'.head?, isUrlChar c' = true := by
    rcases hcontinues with hsame | ⟨-, b', lead, body, rest, rfl, -, hfinds⟩
    · exact ⟨c, hsame.symm, ht c List.mem_cons_self⟩
    · obtain ⟨c', hc', hurl⟩ := hspares.start hfinds
      exact ⟨c', by rw [List.head?_append, hc']; rfl, hurl⟩
  obtain ⟨c', hc', hurl⟩ := hz'
  obtain ⟨t', rfl⟩ := List.head?_eq_some_iff.1 hc'
  have hsplit' : l :: (s ++ [':', '/', '/']) ++ c' :: t' =
      l :: (s ++ ':' :: '/' :: '/' :: [c']) ++ t' := by simp
  rw [hsplit'] at hnone ⊢
  refine ⟨x', _, t', rfl, url_matches_iff.2 ⟨l, s, [c'], rfl, hl, hs, ?_, ?_, hx'⟩, hnone⟩
  · exact List.cons_ne_nil c' []
  · exact fun d hd => List.mem_singleton.1 hd ▸ hurl

theorem overlooks_path (hregular : rule.Regular) (h : path.Occurs (rule.apply cs)) :
    rule.Overlooks path cs := by
  obtain ⟨x, w, z, hout, hmatch⟩ := h
  obtain ⟨d, s, f, fs, s', f', t, rfl, -, hs, hf, hfs, hs', hf'⟩ := exists_of_path_matches hmatch
  have hsplit : x ++ (d ++ (s :: f :: (fs ++ [s', f']) ++ t) ++ z) =
      (x ++ d) ++ (s :: f :: (fs ++ [s', f']) ++ (t ++ z)) := by simp
  rw [hsplit] at hout
  have hclear (e : Char) (hslash : isSlash e = false) (hname : isFileNameChar e = false) :
      e ∉ s :: f :: (fs ++ [s', f']) := by
    intro he
    simp only [List.mem_cons, List.mem_append, List.not_mem_nil, or_false] at he
    rcases he with rfl | rfl | he | rfl | rfl
    · rw [hs] at hslash
      cases hslash
    · rw [hf] at hname
      cases hname
    · rw [hfs e he] at hname
      cases hname
    · rw [hs'] at hslash
      cases hslash
    · rw [hf'] at hname
      cases hname
  obtain ⟨x', z', rfl, -, -, hnone⟩ := Rule.kept_of_apply hregular hout
    (hclear '[' rfl rfl) (hclear ']' rfl rfl) ⟨s, List.mem_cons_self, isLower_of_isSlash hs⟩
    (by simp)
  exact ⟨x', _, z', rfl, path_matches hs hf hfs hs' hf' _ _, hnone⟩

theorem overlooks_loneSegment (hregular : rule.Regular)
    (h : loneSegmentRule.pattern.Occurs (rule.apply cs)) :
    rule.Overlooks loneSegmentRule.pattern cs := by
  obtain ⟨x, w, z, hout, hmatch⟩ := h
  obtain ⟨l, v, rfl, hlead, hbody⟩ := matches_seq_iff.1 hmatch
  obtain ⟨d, s, f, fs, t, rfl, hd, hs, hf, -, -⟩ := loneSegment_matches_iff.1 hbody
  have hsplit : x ++ (l ++ (d ++ (s :: f :: fs ++ t)) ++ z) =
      x ++ ((l ++ d ++ [s, f]) ++ (fs ++ t ++ z)) := by simp
  rw [hsplit] at hout
  have hclear (e : Char) (hopens : opensSegment e = false) (hletter : isLetter e = false)
      (hslash : isSlash e = false) (hname : isFileNameChar e = false) : e ∉ l ++ d ++ [s, f] := by
    intro he
    simp only [List.mem_append, List.mem_cons, List.not_mem_nil, or_false, or_assoc] at he
    rcases he with he | he | rfl | rfl
    · rcases segmentLead_matches_iff.1 hlead with ⟨rfl, -⟩ | ⟨c, hc, rfl⟩
      · cases he
      · obtain rfl := List.mem_singleton.1 he
        rw [hc] at hopens
        cases hopens
    · rcases hd with rfl | ⟨c, hc, rfl⟩
      · cases he
      · simp only [List.mem_cons, List.not_mem_nil, or_false] at he
        rcases he with rfl | rfl
        · rw [hc] at hletter
          cases hletter
        · cases hopens
    · rw [hs] at hslash
      cases hslash
    · rw [hf] at hname
      cases hname
  have hlength : 1 < (l ++ d ++ [s, f]).length := by
    rw [List.length_append]
    exact Nat.le_add_left 2 _
  obtain ⟨x', z', rfl, hjoins, -, hnone⟩ := Rule.kept_of_apply hregular hout
    (hclear '[' (by decide) rfl rfl rfl) (hclear ']' (by decide) rfl rfl rfl)
    ⟨s, by simp, isLower_of_isSlash hs⟩ hlength
  refine ⟨x', _, z', rfl, ?_, hnone⟩
  rw [List.append_assoc]
  refine .seq ?_ (loneSegment_matches_iff.2 ⟨d, s, f, [], [], rfl, hd, hs, hf, ?_, .inl rfl⟩)
  · refine segmentLead_matches_iff.2 ((segmentLead_matches_iff.1 hlead).imp_left fun hstart => ?_)
    rcases hjoins with hsame | ⟨hend, -⟩
    · rw [Option.or_none, Option.or_none] at hsame
      exact ⟨hstart.1, hsame.symm.trans hstart.2⟩
    · rw [hstart.2] at hend
      cases hend
  · exact fun e he => by cases he

theorem overlooks_messageName (hregular : messageNameRule.Regular)
    (h : messageName.Occurs (messageNameRule.apply cs)) :
    messageNameRule.Overlooks messageName cs := by
  obtain ⟨x, w, z, hout, hmatch⟩ := h
  obtain ⟨hparts, hx, hz⟩ := messageName_matches_iff.1 hmatch
  obtain ⟨⟨c, hc, hstart⟩, ⟨e, he, hlast⟩, hdot⟩ := of_messageParts_match hparts
  have hfound {b lead body rest} (hfinds : messageNameRule.Finds b lead body rest) :
      lead = [] ∧ b.any isWord = false ∧ rest.head?.any isWord = false := by
    obtain ⟨hlead, hbody⟩ := hfinds.matches
    obtain rfl := matches_nothing_iff.1 hlead
    exact ⟨rfl, (messageName_matches_iff.1 hbody).2⟩
  obtain ⟨x', z', rfl, hjoins, hcontinues, hnone⟩ := Rule.kept_of_apply hregular hout
    (not_mem_of_matches (by decide) hparts) (not_mem_of_matches (by decide) hparts)
    ⟨'.', hdot, rfl⟩ (Nat.lt_of_lt_of_le (by decide) (minLength_le hparts))
  refine ⟨x', w, z', rfl,
    messageName_matches_iff.2 ⟨matches_anywhere (by decide) hparts _ _, ?_, ?_⟩, hnone⟩
  · rcases hjoins with hsame | ⟨-, v, lead, body, -, hfinds⟩
    · rw [Option.or_none, Option.or_none] at hsame
      rw [← hsame]
      exact hx
    · have hfalse := (hfound hfinds).2.2
      rw [List.head?_append, hc, Option.some_or, Option.any_some,
        isWord_of_isNameChar (isNameChar_of_isLowerStart hstart)] at hfalse
      cases hfalse
  · rcases hcontinues with hsame | ⟨-, b', lead, body, rest, rfl, hbefore, hfinds⟩
    · rw [← hsame]
      exact hz
    · obtain ⟨rfl, hfalse, -⟩ := hfound hfinds
      obtain rfl : b' = (x' ++ w).getLast? := hbefore
      rw [List.getLast?_append, he, Option.some_or, Option.any_some,
        isWord_of_isNameChar hlast] at hfalse
      cases hfalse

theorem regular_of_word {body : Pattern} (word : List Char) (hbody : 0 < body.minLength)
    (hword : word.all Char.isLower = true) :
    Rule.Regular ⟨.nothing, body, '[' :: word ++ [']']⟩ where
  lead h := by
    obtain rfl := matches_nothing_iff.1 h
    exact Nat.zero_le 1
  body := ne_nil_of_matches hbody
  token := ⟨word, rfl, List.all_eq_true.1 hword⟩

theorem urlRule_regular : urlRule.Regular :=
  regular_of_word ['u', 'r', 'l'] (by decide) (by decide)

theorem hostPortRule_regular : hostPortRule.Regular :=
  regular_of_word ['a', 'd', 'd', 'r'] (by decide) (by decide)

theorem pathRule_regular : pathRule.Regular :=
  regular_of_word ['p', 'a', 't', 'h'] (by decide) (by decide)

theorem messageNameRule_regular : messageNameRule.Regular :=
  regular_of_word ['i', 'd', 'e', 'n', 't'] (by decide) (by decide)

theorem loneSegmentRule_regular : loneSegmentRule.Regular where
  lead h := by
    rcases segmentLead_matches_iff.1 h with ⟨rfl, -⟩ | ⟨c, -, rfl⟩
    · exact Nat.zero_le 1
    · exact Nat.le_refl 1
  body := ne_nil_of_matches (by decide)
  token := ⟨['p', 'a', 't', 'h'], rfl, List.all_eq_true.1 (by decide)⟩

theorem rules_regular : ∀ rule ∈ rules, rule.Regular := by
  simp only [rules, List.forall_mem_cons, List.not_mem_nil, false_implies, implies_true, and_true]
  exact ⟨urlRule_regular, hostPortRule_regular, pathRule_regular, loneSegmentRule_regular,
    messageNameRule_regular⟩

end Redaction

end CoordinatorGateway
