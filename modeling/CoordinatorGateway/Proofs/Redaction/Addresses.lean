import Mathlib.Data.List.DropRight
import CoordinatorGateway.Proofs.Redaction.KeptWords
import CoordinatorGateway.Proofs.Redaction.Redacted

namespace CoordinatorGateway.Redaction

open Pattern Unicode Text

structure IsAddress (host port : List Char) : Prop where
  chars : ∀ c ∈ host, isHostChar c = true ∨ c = '_'
  first : host.head?.any Char.isAlphanum = true
  last : host.getLast?.any Char.isAlphanum = true
  digits : ∀ c ∈ port, c.isDigit = true
  port_ne_nil : port ≠ []
  port_length : port.length ≤ 5

instance (host port : List Char) : Decidable (IsAddress host port) :=
  decidable_of_iff
    ((host.all fun c => isHostChar c || c == '_') = true ∧ host.head?.any Char.isAlphanum = true ∧
      host.getLast?.any Char.isAlphanum = true ∧ port.all Char.isDigit = true ∧ port ≠ [] ∧
        port.length ≤ 5) <| by
    simp only [List.all_eq_true, Bool.or_eq_true, beq_iff_eq]
    constructor
    · rintro ⟨hchars, hfirst, hlast, hdigits, hne, hlength⟩
      exact ⟨hchars, hfirst, hlast, hdigits, hne, hlength⟩
    · rintro ⟨hchars, hfirst, hlast, hdigits, hne, hlength⟩
      exact ⟨hchars, hfirst, hlast, hdigits, hne, hlength⟩

def lastLabel (host : List Char) : List Char := host.rtakeWhile fun c => c != '.' && c != '-'

/-- Neither the pattern for addresses nor that for message names finds anything in the address. -/
structure Overlooked (host port : List Char) : Prop where
  underscore : '_' ∈ lastLabel host
  noName : ¬ messageName.Occurs (host ++ ':' :: port)

variable {host port cs x y w z r : List Char} {b o : Option Char} {c : Char}

theorem isHostChar_of_isAlphanum (h : c.isAlphanum = true) : isHostChar c = true := by
  rw [isHostChar, h]
  rfl

theorem isAlphanum_of_isDigit (h : c.isDigit = true) : c.isAlphanum = true := by
  rw [isAlphanum_eq, h, Bool.or_true]

theorem isDigit_of_ascii (h : c.isDigit = true) : isDigit c = true := by
  rw [isDigit, if_pos (toNat_lt_of_isAlphanum (isAlphanum_of_isDigit h))]
  exact h

theorem exists_label (host : List Char) :
    ∃ pre, host = pre ++ lastLabel host ∧ ∀ c ∈ pre.getLast?, c = '.' ∨ c = '-' := by
  refine ⟨host.rdropWhile fun c => c != '.' && c != '-',
    List.rdropWhile_append_rtakeWhile.symm, ?_⟩
  intro c hc
  have hne : host.rdropWhile (fun c => c != '.' && c != '-') ≠ [] := by
    rintro hnil
    rw [hnil] at hc
    cases hc
  obtain rfl := Option.some.inj ((List.getLast?_eq_some_getLast hne).symm.trans hc)
  have hstop := List.rdropWhile_last_not (fun c => c != '.' && c != '-') host hne
  simpa [imp_iff_not_or] using hstop

theorem before_label {pre : List Char} (hx : IsGap x.getLast?)
    (hend : ∀ c ∈ pre.getLast?, c = '.' ∨ c = '-') :
    ∀ c ∈ (x ++ pre).getLast?, isWord c = false ∧ c ≠ ']' := by
  intro c hc
  rw [List.getLast?_append] at hc
  cases hpre : pre.getLast? with
  | none =>
    rw [hpre, Option.none_or] at hc
    refine ⟨isWord_of_isBlank (hx c hc), ?_⟩
    rintro rfl
    cases hx ']' hc
  | some d =>
    rw [hpre, Option.some_or] at hc
    obtain rfl := Option.some.inj hc
    rcases hend d hpre with rfl | rfl
    · exact ⟨by decide, by decide⟩
    · exact ⟨by decide, by decide⟩

theorem not_dot_or_dash (h : c ∈ lastLabel host) : c ≠ '.' ∧ c ≠ '-' := by
  simpa using List.mem_rtakeWhile_imp h

namespace IsAddress

theorem not_mem (h : IsAddress host port) (hhost : isHostChar c = false) (hunder : c ≠ '_')
    (hcolon : c ≠ ':') : c ∉ host ++ ':' :: port := by
  have hother (d : Char) (hd : isHostChar d = true) : c ≠ d := by
    rintro rfl
    rw [hhost] at hd
    cases hd
  rw [List.mem_append, List.mem_cons, not_or, not_or]
  refine ⟨fun hc => ?_, hcolon, fun hc => ?_⟩
  · exact (h.chars c hc).elim (fun hd => hother c hd rfl) hunder
  · exact hother c (isHostChar_of_isAlphanum (isAlphanum_of_isDigit (h.digits c hc))) rfl

theorem colon_not_mem_host (h : IsAddress host port) : ':' ∉ host := by
  intro hc
  rcases h.chars ':' hc with hhost | hunder
  · cases hhost
  · cases hunder

theorem colon_not_mem_port (h : IsAddress host port) : ':' ∉ port := fun hc =>
  Bool.false_ne_true (h.digits ':' hc)

theorem one_lt_length (h : IsAddress host port) : 1 < (host ++ ':' :: port).length := by
  have hport := List.length_pos_of_ne_nil h.port_ne_nil
  rw [List.length_append, List.length_cons]
  omega

theorem lastLabel_ne_nil (h : IsAddress host port) : lastLabel host ≠ [] := by
  intro hnil
  obtain ⟨pre, hpre, hend⟩ := exists_label host
  rw [hnil, List.append_nil] at hpre
  have hlast := h.last
  rw [hpre, Option.any_eq_true] at hlast
  obtain ⟨c, hc, halphanum⟩ := hlast
  rcases hend c hc with rfl | rfl
  · cases halphanum
  · cases halphanum

theorem isAlphanum_of_mem_lastLabel (h : IsAddress host port) (hc : c ∈ lastLabel host)
    (hunder : c ≠ '_') : c.isAlphanum = true := by
  obtain ⟨hdot, hdash⟩ := not_dot_or_dash hc
  have hhost := (h.chars c ((List.rtakeWhile_suffix _ _).subset hc)).resolve_right hunder
  simpa [isHostChar, hdot, hdash] using hhost

theorem isWord_of_mem_lastLabel (h : IsAddress host port) (hc : c ∈ lastLabel host) :
    isWord c = true := by
  by_cases hunder : c = '_'
  · rw [hunder]
    decide
  · exact isWord_of_isAlphanum (h.isAlphanum_of_mem_lastLabel hc hunder)

end IsAddress

theorem any_isWord_or (hb : IsGap b) (o : Option Char) :
    (o.or b).any isWord = o.any isWord := by
  cases o with
  | some c => rfl
  | none =>
    cases b with
    | none => rfl
    | some c => exact isWord_of_isBlank (isGap_some.1 hb)

theorem messageName_matches_gap_iff (hb : IsGap b) (hr : IsGap r.head?) :
    messageName.Matches (o.or b) y (z ++ r) ↔ messageName.Matches o y z := by
  rw [messageName_matches_iff, messageName_matches_iff, any_isWord_or hb, List.head?_append,
    any_isWord_or hr]
  refine and_congr_left' ⟨fun h => ?_, fun h => ?_⟩
  · exact matches_anywhere (by decide) h _ _
  · exact matches_anywhere (by decide) h _ _

theorem messageName_occurs_of_mem_words (hw : w ∈ words cs) (h : messageName.Occurs w) :
    messageName.Occurs cs := by
  obtain ⟨-, x, z, rfl, hx, hz⟩ := mem_words_iff.1 hw
  obtain ⟨u, y, v, rfl, hmatch⟩ := h
  refine ⟨x ++ u, y, v ++ z, by simp only [List.append_assoc], ?_⟩
  rw [List.getLast?_append]
  exact (messageName_matches_gap_iff hx hz).2 hmatch

namespace IsAddress

theorem spares_of_slash {rule : Rule} (h : IsAddress host port)
    (hslash : ∀ {b u r}, rule.body.Matches b u r → ∃ s ∈ u, isSlash s = true) :
    rule.Spares (host ++ ':' :: port) := by
  rintro x y z r b hw - - hmatch
  obtain ⟨s, hs, hisSlash⟩ := hslash hmatch
  have hmem : s ∈ host ++ ':' :: port := by
    rw [hw]
    exact List.mem_append_right x (List.mem_append_left z hs)
  simp only [isSlash, Bool.or_eq_true, beq_iff_eq] at hisSlash
  rcases hisSlash with rfl | rfl
  · exact h.not_mem rfl (by decide) (by decide) hmem
  · exact h.not_mem rfl (by decide) (by decide) hmem

theorem hostPortRule_spares (h : IsAddress host port) (hunder : '_' ∈ lastLabel host) :
    hostPortRule.Spares (host ++ ':' :: port) := by
  intro x y z r b hw hb hr hmatch
  obtain ⟨found, d, ds, rfl, hfound, -⟩ := hostPort_matches_iff.1 hmatch
  have hread : host ++ ':' :: port = (x ++ found) ++ ':' :: (d :: ds ++ z) := by
    rw [hw]
    simp
  rcases hfound with ⟨hs, rfl, -⟩ | ⟨c, hs, rfl, hc, hall, hedge⟩
  · refine h.not_mem (c := '[') rfl (by decide) (by decide) ?_
    rw [hread]
    simp
  · obtain ⟨hhost, -⟩ := (List.append_cons_inj_of_notMem h.colon_not_mem_host
      h.colon_not_mem_port).1 hread
    have hclear : '_' ∉ c :: hs := by
      rw [List.mem_cons, not_or]
      refine ⟨?_, fun hmem => Bool.false_ne_true (hall '_' hmem)⟩
      rintro rfl
      cases hc
    -- The underscore comes before the match, so the match starts within the last label.
    obtain ⟨pre, hpre, -⟩ := exists_label host
    rcases List.append_eq_append_iff.1 (hpre.symm.trans hhost) with ⟨u, rfl, hlabel⟩ |
      ⟨u, -, hstart⟩
    · have hmem : '_' ∈ u := by
        rw [hlabel, List.mem_append] at hunder
        exact hunder.resolve_right hclear
      obtain ⟨e, he⟩ := List.getLast?_isSome.2 (List.ne_nil_of_mem hmem) |> Option.isSome_iff_exists.1
      have hword : isWord e = true := by
        refine h.isWord_of_mem_lastLabel ?_
        rw [hlabel]
        exact List.mem_append_left _ (List.mem_of_getLast? he)
      rw [List.getLast?_append, he, Option.some_or, Option.some_or, Option.any_some,
        hword] at hedge
      cases hedge
    · rw [hstart] at hclear
      exact hclear (List.mem_append_right u hunder)

theorem messageNameRule_spares (hnone : ¬ messageName.Occurs w) : messageNameRule.Spares w := by
  intro x y z r b hw hb hr hmatch
  exact hnone ⟨x, y, z, hw, (messageName_matches_gap_iff hb hr).1 hmatch⟩

theorem rules_spare (h : IsAddress host port) (hoverlooked : Overlooked host port) :
    ∀ rule ∈ rules, rule.Spares (host ++ ':' :: port) := by
  simp only [rules, List.forall_mem_cons, List.not_mem_nil, false_implies, implies_true, and_true]
  refine ⟨h.spares_of_slash fun hmatch => ?_, h.hostPortRule_spares hoverlooked.underscore,
    h.spares_of_slash fun hmatch => ?_, h.spares_of_slash fun hmatch => ?_,
    messageNameRule_spares hoverlooked.noName⟩
  · obtain ⟨l, s, t, rfl, -⟩ := url_matches_iff.1 hmatch
    exact ⟨'/', by simp, rfl⟩
  · obtain ⟨d, s, f, fs, s', f', t, rfl, -, hs, -⟩ := exists_of_path_matches hmatch
    exact ⟨s, by simp, hs⟩
  · obtain ⟨d, s, f, fs, t, rfl, -, hs, -⟩ := loneSegment_matches_iff.1 hmatch
    exact ⟨s, by simp, hs⟩

theorem hostPort_matches (h : IsAddress host port) (hclear : '_' ∉ lastLabel host)
    (hb : b.any isWord = false) (hr : r.head?.any isWord = false) :
    hostPort.Matches b (lastLabel host ++ ':' :: port) r := by
  obtain ⟨c, hs, hlabel⟩ := List.exists_cons_of_ne_nil h.lastLabel_ne_nil
  obtain ⟨d, ds, rfl⟩ := List.exists_cons_of_ne_nil h.port_ne_nil
  have halphanum (e : Char) (he : e ∈ lastLabel host) : e.isAlphanum = true := by
    refine h.isAlphanum_of_mem_lastLabel he ?_
    rintro rfl
    exact hclear he
  have hdigits := List.forall_mem_cons.1 h.digits
  rw [hlabel] at halphanum ⊢
  rw [List.forall_mem_cons] at halphanum
  exact hostPort_matches_iff.2 ⟨c :: hs, d, ds, rfl,
    .inr ⟨c, hs, rfl, halphanum.1, fun e he => isHostChar_of_isAlphanum (halphanum.2 e he), hb⟩,
    isDigit_of_ascii hdigits.1, Nat.le_of_succ_le_succ h.port_length,
    fun e he => isDigit_of_ascii (hdigits.2 e he), hr⟩

/-- Without an underscore there is a match at the last label at the latest. -/
theorem not_mem_words_hostPortRule (h : IsAddress host port) (hclear : '_' ∉ lastLabel host) :
    host ++ ':' :: port ∉ words (hostPortRule.apply cs) := by
  intro hmem
  obtain ⟨-, x, z, hout, hx, hz⟩ := mem_words_iff.1 hmem
  obtain ⟨pre, hpre, hend⟩ := exists_label host
  have hlast := before_label hx hend
  have hsplit : x ++ (host ++ ':' :: port ++ z) =
      (x ++ pre) ++ ((lastLabel host ++ ':' :: port) ++ z) := by
    rw [show host ++ ':' :: port = pre ++ (lastLabel host ++ ':' :: port) by
      rw [← List.append_assoc, ← hpre]]
    simp only [List.append_assoc]
  rw [hsplit] at hout
  have hpart {c : Char} (hc : c ∉ host ++ ':' :: port) : c ∉ lastLabel host ++ ':' :: port := by
    intro hmem
    refine hc (List.mem_append.2 ((List.mem_append.1 hmem).imp_left ?_))
    exact fun hmem => (List.rtakeWhile_suffix _ _).subset hmem
  have hlength : 1 < (lastLabel host ++ ':' :: port).length := by
    have hlabel := List.length_pos_of_ne_nil h.lastLabel_ne_nil
    rw [List.length_append, List.length_cons]
    omega
  obtain ⟨x', z', rfl, hjoins, hcontinues, hnone⟩ := Rule.kept_of_apply hostPortRule_regular hout
    (hpart (h.not_mem rfl (by decide) (by decide))) (hpart (h.not_mem rfl (by decide) (by decide)))
    ⟨':', by simp, rfl⟩ hlength
  have hx' : x'.getLast?.any isWord = false := by
    rcases hjoins with hsame | ⟨hclose, -⟩
    · rw [Option.or_none, Option.or_none] at hsame
      rw [← hsame, Option.any_eq_false]
      exact fun c hc => (hlast c hc).1
    · exact absurd rfl (hlast ']' hclose).2
  have hz' : z'.head?.any isWord = false := any_isWord_or (hcontinues.isGap hz) none
  exact not_overlooks_body rfl _ ⟨x', _, z', rfl, h.hostPort_matches hclear hx' hz', hnone⟩

end IsAddress

theorem words_trimChars (cs : List Char) : words (trimChars cs) = words cs := by
  obtain ⟨l, r, hcs, hl, hr⟩ := exists_blanks cs
  conv_rhs => rw [hcs]
  rw [words_append_left hl, words_append_right hr]

theorem IsAddress.mem_words_redactChars_iff (h : IsAddress host port) :
    host ++ ':' :: port ∈ words (redactChars cs) ↔
      host ++ ':' :: port ∈ words cs ∧ Overlooked host port := by
  rw [redactChars, words_trimChars]
  have hopen : '[' ∉ host ++ ':' :: port := h.not_mem rfl (by decide) (by decide)
  have hclose : ']' ∉ host ++ ':' :: port := h.not_mem rfl (by decide) (by decide)
  have hpivot : ∃ c ∈ host ++ ':' :: port, c.isLower = false := ⟨':', by simp, rfl⟩
  constructor
  · intro hmem
    refine ⟨Rule.mem_words_of_foldl rules_regular hopen hclose hpivot h.one_lt_length hmem, ?_, ?_⟩
    · by_contra hclear
      have hlater : host ++ ':' :: port ∈ words ([pathRule, loneSegmentRule, messageNameRule].foldl
          (fun text rule => rule.apply text) (hostPortRule.apply (urlRule.apply cs))) := hmem
      refine h.not_mem_words_hostPortRule hclear (Rule.mem_words_of_foldl (fun rule hrule => ?_)
        hopen hclose hpivot h.one_lt_length hlater)
      exact rules_regular rule (List.mem_cons_of_mem _ (List.mem_cons_of_mem _ hrule))
    · intro hname
      exact rules_leave_nothing cs messageName (by simp [leakPatterns])
        (messageName_occurs_of_mem_words hmem hname)
  · rintro ⟨hmem, hoverlooked⟩
    exact Rule.mem_words_foldl (fun rule hrule => ⟨rules_regular rule hrule,
      rules_unbroken rule hrule, h.rules_spare hoverlooked rule hrule⟩) hmem

/-- The dots at the end of a text that was cut do not make a word that ends in something else. -/
theorem mem_words_of_shorten (hdot : w.getLast? ≠ some '.') (h : w ∈ words (shorten cs)) :
    w ∈ words cs := by
  rw [shorten] at h
  split at h
  · exact h
  · obtain ⟨hw, x, z, hread, hx, hz⟩ := mem_words_iff.1 h
    have hdots (c : Char) (hc : c ∈ z.head?) : c ∉ ['.', '.', '.'] := by
      intro hmem
      obtain rfl : c = '.' := by simpa using hmem
      cases hz '.' hc
    rw [← List.append_assoc] at hread
    rcases List.append_eq_append_iff.1 hread with ⟨t, hxw, hz'⟩ | ⟨t, htake, rfl⟩
    · cases z with
      | nil =>
        rw [List.append_nil] at hread
        refine absurd ?_ hdot
        rw [← List.getLast?_append_of_ne_nil x hw.ne_nil, ← hread]
        simp
      | cons c z => exact absurd (hz' ▸ List.mem_append_right t List.mem_cons_self) (hdots c rfl)
    · cases t with
      | nil => exact absurd List.mem_cons_self (hdots '.' rfl)
      | cons c t =>
        refine mem_words_iff.2 ⟨hw, x, c :: t ++ cs.drop maxLength, ?_, hx, hz⟩
        rw [← List.append_assoc, ← List.append_assoc, ← htake, List.take_append_drop]

/-- An address in the redacted text was in the message and is one that the patterns overlook. Such
an address stays, unless the text is cut. -/
theorem redact_address (message : String) (h : IsAddress host port) :
    (host ++ ':' :: port ∈ words (redact message).toList →
      host ++ ':' :: port ∈ words message.toList ∧ Overlooked host port) ∧
    ((redactChars message.toList).length ≤ maxLength → host ++ ':' :: port ∈ words message.toList →
      Overlooked host port → host ++ ':' :: port ∈ words (redact message).toList) := by
  rw [redact, String.toList_ofList]
  constructor
  · intro hmem
    refine h.mem_words_redactChars_iff.1 (mem_words_of_shorten (fun hdot => ?_) hmem)
    rw [List.getLast?_append_of_ne_nil host (List.cons_ne_nil ':' port), ← List.singleton_append,
      List.getLast?_append_of_ne_nil [':'] h.port_ne_nil] at hdot
    exact Bool.false_ne_true (h.digits '.' (List.mem_of_getLast? hdot))
  · intro hlength hmem hoverlooked
    rw [shorten, if_pos hlength]
    exact h.mem_words_redactChars_iff.2 ⟨hmem, hoverlooked⟩

theorem redact_address_dial :
    IsAddress "my_host".toList "443".toList ∧
    ("my_host".toList ++ ':' :: "443".toList ∈ words (redact "dial my_host:443 failed").toList →
      "my_host".toList ++ ':' :: "443".toList ∈ words "dial my_host:443 failed".toList ∧
        Overlooked "my_host".toList "443".toList) ∧
    ((redactChars "dial my_host:443 failed".toList).length ≤ maxLength →
      "my_host".toList ++ ':' :: "443".toList ∈ words "dial my_host:443 failed".toList →
        Overlooked "my_host".toList "443".toList →
          "my_host".toList ++ ':' :: "443".toList ∈
            words (redact "dial my_host:443 failed").toList) :=
  have h : IsAddress "my_host".toList "443".toList := by decide
  ⟨h, redact_address _ h⟩

/-- An address that is neither changed nor cut. -/
theorem redact_leaves_address :
    IsAddress "my_host".toList "443".toList ∧
      "my_host:443".toList ∈ words "dial my_host:443 failed".toList ∧
        "my_host:443".toList ∈ words (redact "dial my_host:443 failed").toList :=
  ⟨by decide, by decide +kernel, by decide +kernel⟩

end CoordinatorGateway.Redaction
