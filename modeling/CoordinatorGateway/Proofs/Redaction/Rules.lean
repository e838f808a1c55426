import CoordinatorGateway.Redaction.Redact
import CoordinatorGateway.Proofs.Redaction.Rewriting
import CoordinatorGateway.Proofs.Redaction.Shape
import CoordinatorGateway.Proofs.Text.Utf8

namespace CoordinatorGateway

namespace Unicode

theorem forall_ascii {P : Char → Prop} (h : ∀ n < 128, P (Char.ofNat n)) {c : Char}
    (hc : c.toNat < 128) : P c := by
  rw [← Char.ofNat_toNat c]
  exact h c.toNat hc

theorem forall_blank {P : Char → Bool}
    (h : blankRanges.all fun s => (List.range' s.1 (s.2 + 1 - s.1)).all fun n => P (Char.ofNat n))
    {c : Char} (hc : isBlank c = true) : P c = true := by
  obtain ⟨s, hs, hin⟩ := List.any_eq_true.1 hc
  simp only [Bool.and_eq_true, decide_eq_true_eq] at hin
  rw [← Char.ofNat_toNat c]
  exact List.all_eq_true.1 (List.all_eq_true.1 h s hs) c.toNat (List.mem_range'_1.2 (by omega))

theorem isWord_of_isAlphanum {c : Char} (h : c.isAlphanum = true) : isWord c = true := by
  rw [isWord, if_pos (toNat_lt_of_isAlphanum h), isAsciiWord, h, Bool.true_or]

/-- Each range is part of one of the others, which are looked through once, in ascending order. -/
def Ranges.isWithin : Ranges → Ranges → Bool
  | [], _ => true
  | r :: inner, outer =>
    match outer.dropWhile fun s => s.2.blt r.2 with
    | [] => false
    | s :: rest => s.1.ble r.1 && isWithin inner (s :: rest)

def Ranges.isApart (ranges other : Ranges) : Bool :=
  ranges.all fun r => other.all fun s => r.2.blt s.1 || s.2.blt r.1

theorem contains_of_isWithin {inner outer : Ranges} (h : inner.isWithin outer = true) {c : Char}
    (hc : inner.contains c = true) : outer.contains c = true := by
  induction inner generalizing outer with
  | nil => cases hc
  | cons r inner ih =>
    have hsuffix := List.dropWhile_suffix (l := outer) fun s => s.2.blt r.2
    rw [Ranges.isWithin] at h
    split at h
    · cases h
    · next s rest hrest =>
      rw [Bool.and_eq_true, Nat.ble_eq] at h
      rw [hrest] at hsuffix
      have hle : r.2 ≤ s.2 := by
        have hhead := List.head_dropWhile_not (fun s : Nat × Nat => s.2.blt r.2)
          (hrest ▸ List.cons_ne_nil s rest)
        simp only [hrest, List.head_cons, Nat.blt_eq, Bool.eq_false_iff, ne_eq, Nat.not_lt] at hhead
        exact hhead
      rw [Ranges.contains, List.any_cons, Bool.or_eq_true] at hc
      rcases hc with hr | hinner
      · refine List.any_eq_true.2 ⟨s, hsuffix.subset List.mem_cons_self, ?_⟩
        simp only [Bool.and_eq_true, decide_eq_true_eq] at hr ⊢
        omega
      · obtain ⟨t, ht, hin⟩ := List.any_eq_true.1 (ih h.2 hinner)
        exact List.any_eq_true.2 ⟨t, hsuffix.subset ht, hin⟩

theorem contains_eq_false_of_isApart {ranges other : Ranges} (h : ranges.isApart other = true)
    {c : Char} (hc : ranges.contains c = true) : other.contains c = false := by
  rw [Ranges.contains, List.any_eq_true] at hc
  obtain ⟨r, hr, hin⟩ := hc
  rw [Ranges.contains, List.any_eq_false]
  intro s hs hin'
  have hapart := List.all_eq_true.1 (List.all_eq_true.1 h r hr) s hs
  simp only [Bool.and_eq_true, Bool.or_eq_true, decide_eq_true_eq, Nat.blt_eq] at hin hin' hapart
  omega

theorem isWord_of_isDigit {c : Char} (h : isDigit c = true) : isWord c = true := by
  rw [isDigit] at h
  split at h
  · exact isWord_of_isAlphanum (by rw [Char.isAlphanum, h, Bool.or_true])
  · next hascii =>
    rw [isWord, if_neg hascii]
    exact contains_of_isWithin (by decide +kernel) h

theorem isWord_of_isBlank {c : Char} (h : isBlank c = true) : isWord c = false := by
  by_cases hascii : c.toNat < 128
  · exact forall_ascii (P := fun c => isBlank c = true → isWord c = false) (by decide +kernel)
      hascii h
  · rw [isWord, if_neg hascii]
    exact contains_eq_false_of_isApart (by decide +kernel) h

end Unicode

open Unicode

theorem Cursor.isWordEdge_of_word {b : Option Char} {c : Char} {cs : List Char}
    (hc : isWord c = true) : Cursor.isWordEdge ⟨b, c :: cs⟩ = true ↔ b.any isWord = false := by
  simp [Cursor.isWordEdge, hc]

theorem Cursor.isWordEdge_after_word {c : Char} {cs : List Char} (hc : isWord c = true) :
    Cursor.isWordEdge ⟨some c, cs⟩ = true ↔ cs.head?.any isWord = false := by
  simp [Cursor.isWordEdge, hc]

namespace Redaction

open Pattern

variable {b b' : Option Char} {w r r' : List Char} {c : Char}

theorem isAlphanum_eq : c.isAlphanum = (c.isUpper || c.isLower || c.isDigit) := rfl

theorem isUrlChar_of_isAlphanum (h : c.isAlphanum = true) : isUrlChar c = true :=
  forall_ascii (P := fun c => c.isAlphanum = true → isUrlChar c = true) (by decide +kernel)
    (toNat_lt_of_isAlphanum h) h

theorem isAlphanum_of_isLetter (h : isLetter c = true) : c.isAlphanum = true := by
  exact Bool.or_eq_true_iff.2 (.inl h)

theorem isAlphanum_or_of_isNameChar (h : isNameChar c = true) : c.isAlphanum = true ∨ c = '_' := by
  simpa [isNameChar] using h

theorem isWord_of_isNameChar (h : isNameChar c = true) : isWord c = true := by
  rcases isAlphanum_or_of_isNameChar h with h | rfl
  · exact isWord_of_isAlphanum h
  · decide

theorem isNameChar_of_isLowerStart (h : isLowerStart c = true) : isNameChar c = true := by
  rw [isLowerStart, Bool.or_eq_true] at h
  rw [isNameChar, isAlphanum_eq]
  rcases h with h | h
  · simp [h]
  · simp [h]

theorem isUrlChar_of_isNameChar (h : isNameChar c = true) : isUrlChar c = true := by
  rcases isAlphanum_or_of_isNameChar h with h | rfl
  · exact isUrlChar_of_isAlphanum h
  · decide

theorem isUrlChar_of_isSlash (h : isSlash c = true) : isUrlChar c = true := by
  simp only [isSlash, Bool.or_eq_true, beq_iff_eq] at h
  rcases h with rfl | rfl
  · decide
  · decide

theorem isLower_of_isSlash (h : isSlash c = true) : c.isLower = false := by
  simp only [isSlash, Bool.or_eq_true, beq_iff_eq] at h
  rcases h with rfl | rfl
  · decide
  · decide

theorem url_matches_iff :
    url.Matches b w r ↔ ∃ l s t, w = l :: (s ++ ':' :: '/' :: '/' :: t) ∧ isLetter l = true ∧
      (∀ d ∈ s, isSchemeChar d = true) ∧ t ≠ [] ∧ (∀ d ∈ t, isUrlChar d = true) ∧
        b.any isWord = false := by
  simp only [url, Pattern.sequence, matches_seq_iff, matches_wordEdge_iff, matches_char_iff,
    matches_many_char_iff, matches_literal_iff, matches_oneOrMore_char_iff]
  constructor
  · rintro ⟨_, _, rfl, ⟨rfl, hedge⟩, _, _, rfl, ⟨l, hl, rfl⟩, s, _, rfl, hs, _, t, rfl, rfl, ht,
      hall⟩
    refine ⟨l, s, t, rfl, hl, hs, ht, hall, ?_⟩
    exact (Cursor.isWordEdge_of_word (isWord_of_isAlphanum (isAlphanum_of_isLetter hl))).1 hedge
  · rintro ⟨l, s, t, rfl, hl, hs, ht, hall, hb⟩
    refine ⟨[], _, rfl, ⟨rfl, ?_⟩, [l], _, rfl, ⟨l, hl, rfl⟩, s, _, rfl, hs, [':', '/', '/'], t,
      rfl, rfl, ht, hall⟩
    exact (Cursor.isWordEdge_of_word (isWord_of_isAlphanum (isAlphanum_of_isLetter hl))).2 hb

theorem url_exhausts : url.Exhausts isUrlChar :=
  ((((exhausts_oneOrMore_char isUrlChar).seq _).seq _).seq _).seq _

theorem isWordEdge_after_digits {d : Char} {ds : List Char} {cs : List Char}
    (hd : isDigit d = true) (hds : ∀ e ∈ ds, isDigit e = true) :
    Cursor.isWordEdge ⟨ds.getLast?.or (some d), cs⟩ = true ↔ cs.head?.any isWord = false := by
  cases hlast : ds.getLast? with
  | none => exact Cursor.isWordEdge_after_word (isWord_of_isDigit hd)
  | some e =>
    exact Cursor.isWordEdge_after_word (isWord_of_isDigit (hds e (List.mem_of_getLast? hlast)))

theorem hostPort_matches_iff :
    hostPort.Matches b w r ↔ ∃ host d ds, w = host ++ ':' :: d :: ds ∧
      ((∃ hs, host = '[' :: (hs ++ [']']) ∧ hs ≠ [] ∧ ∀ c ∈ hs, isHexAddressChar c = true) ∨
        ∃ c hs, host = c :: hs ∧ c.isAlphanum = true ∧ (∀ c ∈ hs, isHostChar c = true) ∧
          b.any isWord = false) ∧
      isDigit d = true ∧ ds.length ≤ 4 ∧ (∀ e ∈ ds, isDigit e = true) ∧
        r.head?.any isWord = false := by
  simp only [hostPort, Pattern.sequence, matches_seq_iff, matches_either_iff, matches_wordEdge_iff,
    matches_char_iff, matches_many_char_iff, matches_oneOrMore_char_iff, matches_upTo_char_iff]
  constructor
  · rintro ⟨host, _, rfl, hhost, _, _, rfl, ⟨colon, hcolon, rfl⟩, _, _, rfl, ⟨d, hd, rfl⟩, ds, _,
      rfl, ⟨hlength, hds⟩, rfl, hedge⟩
    obtain rfl := beq_iff_eq.1 hcolon
    refine ⟨host, d, ds, by simp, ?_, hd, hlength, hds, (isWordEdge_after_digits hd hds).1 hedge⟩
    rcases hhost with ⟨_, _, rfl, ⟨c, hc, rfl⟩, hs, _, rfl, ⟨hne, hall⟩, e, he, rfl⟩ |
      ⟨_, _, rfl, ⟨rfl, hstart⟩, _, hs, rfl, ⟨c, hc, rfl⟩, hall⟩
    · obtain rfl := beq_iff_eq.1 hc
      obtain rfl := beq_iff_eq.1 he
      exact .inl ⟨hs, rfl, hne, hall⟩
    · exact .inr ⟨c, hs, rfl, hc, hall,
        (Cursor.isWordEdge_of_word (isWord_of_isAlphanum hc)).1 hstart⟩
  · rintro ⟨host, d, ds, rfl, hhost, hd, hlength, hds, hr⟩
    refine ⟨host, _, rfl, ?_, [':'], _, rfl, ⟨':', rfl, rfl⟩, [d], ds, rfl, ⟨d, hd, rfl⟩, ds, [],
      by simp, ⟨hlength, hds⟩, rfl, (isWordEdge_after_digits hd hds).2 hr⟩
    rcases hhost with ⟨hs, rfl, hne, hall⟩ | ⟨c, hs, rfl, hc, hall, hb⟩
    · exact .inl ⟨['['], _, rfl, ⟨'[', rfl, rfl⟩, hs, _, rfl, ⟨hne, hall⟩, ']', rfl, rfl⟩
    · exact .inr ⟨[], _, rfl, ⟨rfl, (Cursor.isWordEdge_of_word (isWord_of_isAlphanum hc)).2 hb⟩,
        [c], hs, rfl, ⟨c, hc, rfl⟩, hall⟩

theorem of_hostPort_matches (h : hostPort.Matches b w r) :
    (∃ c ∈ w.head?, c = '[' ∨ c.isAlphanum = true) ∧ r.head?.any isWord = false := by
  obtain ⟨host, d, ds, rfl, hhost, -, -, -, hr⟩ := hostPort_matches_iff.1 h
  refine ⟨?_, hr⟩
  rcases hhost with ⟨hs, rfl, -⟩ | ⟨c, hs, rfl, hc, -⟩
  · exact ⟨'[', rfl, .inl rfl⟩
  · exact ⟨c, rfl, .inr hc⟩

theorem segment_matches_iff :
    segment.Matches b w r ↔ ∃ s f fs, w = s :: f :: fs ∧ isSlash s = true ∧
      isFileNameChar f = true ∧ ∀ d ∈ fs, isFileNameChar d = true := by
  rw [segment, matches_seq_iff]
  constructor
  · rintro ⟨_, t, rfl, hslash, ht⟩
    obtain ⟨s, hs, rfl⟩ := matches_char_iff.1 hslash
    obtain ⟨hne, hall⟩ := matches_oneOrMore_char_iff.1 ht
    obtain ⟨f, fs, rfl⟩ := List.exists_cons_of_ne_nil hne
    rw [List.forall_mem_cons] at hall
    exact ⟨s, f, fs, rfl, hs, hall⟩
  · rintro ⟨s, f, fs, rfl, hs, hf, hfs⟩
    refine ⟨[s], f :: fs, rfl, .char hs, ?_⟩
    rw [matches_oneOrMore_char_iff, List.forall_mem_cons]
    exact ⟨List.cons_ne_nil f fs, hf, hfs⟩

theorem segment_exhausts : segment.Exhausts isFileNameChar :=
  (exhausts_oneOrMore_char isFileNameChar).seq _

theorem path_exhausts : path.Exhausts isFileNameChar := by
  refine ((segment_exhausts.pieces ?_ ?_).seq segment).seq drive
  · intro b u r h
    exact ne_nil_of_matches (by decide) h
  · intro b c d cs hc hd
    exact ⟨[c, d], cs, rfl, segment_matches_iff.2 ⟨c, d, [], rfl, hc, hd, fun _ h => by cases h⟩⟩

theorem path_matches {s f s' f' : Char} {fs : List Char} (hs : isSlash s = true)
    (hf : isFileNameChar f = true) (hfs : ∀ d ∈ fs, isFileNameChar d = true)
    (hs' : isSlash s' = true) (hf' : isFileNameChar f' = true) (b : Option Char) (r : List Char) :
    path.Matches b (s :: f :: (fs ++ [s', f'])) r := by
  have hfirst : segment.Matches b (s :: f :: fs) ([s', f'] ++ r) :=
    segment_matches_iff.2 ⟨s, f, fs, rfl, hs, hf, hfs⟩
  have hsecond (b : Option Char) : segment.Matches b [s', f'] r :=
    segment_matches_iff.2 ⟨s', f', [], rfl, hs', hf', fun _ h => by cases h⟩
  have hend (b : Option Char) : (seq (many segment) (optional (.char isSlash))).Matches b [] r :=
    .seq (u := []) .manyNil (.right .nothing)
  have hrest (b : Option Char) :=
    Matches.seq (u := [s', f']) (v := []) (hsecond b) (hend _)
  rw [List.append_nil] at hrest
  exact .seq (u := []) (.right .nothing) (.seq hfirst (hrest _))

theorem drive_matches_iff :
    drive.Matches b w r ↔ w = [] ∨ ∃ l, isLetter l = true ∧ w = [l, ':'] := by
  rw [drive, matches_optional_iff, matches_seq_iff, or_comm]
  constructor
  · rintro (hnil | ⟨_, _, rfl, hletter, hcolon⟩)
    · exact .inl hnil
    · obtain ⟨l, hl, rfl⟩ := matches_char_iff.1 hletter
      obtain ⟨c, hc, rfl⟩ := matches_char_iff.1 hcolon
      rw [beq_iff_eq.1 hc]
      exact .inr ⟨l, hl, rfl⟩
  · rintro (hnil | ⟨l, hl, rfl⟩)
    · exact .inl hnil
    · exact .inr ⟨[l], [':'], rfl, .char hl, .char rfl⟩

theorem exists_of_path_matches (h : path.Matches b w r) :
    ∃ d s f fs s' f' t, w = d ++ (s :: f :: (fs ++ [s', f']) ++ t) ∧
      (d = [] ∨ ∃ l, isLetter l = true ∧ d = [l, ':']) ∧ isSlash s = true ∧
        isFileNameChar f = true ∧ (∀ e ∈ fs, isFileNameChar e = true) ∧
          isSlash s' = true ∧ isFileNameChar f' = true := by
  simp only [path, Pattern.sequence, matches_seq_iff, segment_matches_iff, drive_matches_iff] at h
  obtain ⟨d, _, rfl, hd, _, _, rfl, ⟨s, f, fs, rfl, hs, hf, hfs⟩, _, v, rfl,
    ⟨s', f', fs', rfl, hs', hf', -⟩, -⟩ := h
  refine ⟨d, s, f, fs, s', f', fs' ++ v, ?_, hd, hs, hf, hfs, hs', hf'⟩
  simp

theorem loneSegment_matches_iff :
    loneSegment.Matches b w r ↔ ∃ d s f fs t, w = d ++ (s :: f :: fs ++ t) ∧
      (d = [] ∨ ∃ l, isLetter l = true ∧ d = [l, ':']) ∧ isSlash s = true ∧
        isFileNameChar f = true ∧ (∀ e ∈ fs, isFileNameChar e = true) ∧
          (t = [] ∨ ∃ s', isSlash s' = true ∧ t = [s']) := by
  simp only [loneSegment, Pattern.sequence, matches_seq_iff, segment_matches_iff, drive_matches_iff,
    matches_optional_iff, matches_char_iff]
  constructor
  · rintro ⟨d, _, rfl, hd, _, t, rfl, ⟨s, f, fs, rfl, hs, hf, hfs⟩, ht⟩
    exact ⟨d, s, f, fs, t, rfl, hd, hs, hf, hfs, ht.symm⟩
  · rintro ⟨d, s, f, fs, t, rfl, hd, hs, hf, hfs, ht⟩
    exact ⟨d, _, rfl, hd, _, t, rfl, ⟨s, f, fs, rfl, hs, hf, hfs⟩, ht.symm⟩

theorem segmentLead_matches_iff :
    segmentLead.Matches b w r ↔ w = [] ∧ b = none ∨ ∃ c, opensSegment c = true ∧ w = [c] := by
  rw [segmentLead, matches_either_iff, matches_textStart_iff, matches_char_iff]

def messageParts : List Pattern :=
  [char isLowerStart, many (char isLowerChar),
    many (sequence [char (· == '.'), char isLowerStart, many (char isLowerChar)]),
    char (· == '.'), char Char.isUpper, many (char isNameChar),
    Pattern.optional (seq (char (· == '/')) (oneOrMore (char isNameChar)))]

theorem of_messageParts_match (h : (sequence messageParts).Matches b w r) :
    (∃ c ∈ w.head?, isLowerStart c = true) ∧ (∃ c ∈ w.getLast?, isNameChar c = true) ∧
      '.' ∈ w := by
  simp only [messageParts, Pattern.sequence, matches_seq_iff, matches_optional_iff,
    matches_char_iff, matches_many_char_iff, matches_oneOrMore_char_iff] at h
  obtain ⟨_, _, rfl, ⟨c, hc, rfl⟩, lows, _, rfl, -, groups, _, rfl, -, _, _, rfl, ⟨p, hp, rfl⟩,
    _, _, rfl, ⟨u, hu, rfl⟩, names, method, rfl, hnames, hmethod⟩ := h
  obtain rfl := beq_iff_eq.1 hp
  refine ⟨⟨c, rfl, hc⟩, ?_, by simp⟩
  have hall : ∃ e ∈ (u :: (names ++ method)).getLast?, isNameChar e = true := by
    have hupper : isNameChar u = true := by
      rw [isNameChar, isAlphanum_eq, hu, Bool.true_or, Bool.true_or, Bool.true_or]
    rcases hmethod with ⟨_, t, rfl, -, hne, ht⟩ | rfl
    · refine ⟨t.getLast hne, ?_, ht _ (List.getLast_mem hne)⟩
      rw [← List.append_assoc, ← List.cons_append, List.getLast?_append_of_ne_nil _ hne]
      exact List.getLast?_eq_some_getLast hne
    · rw [List.append_nil]
      refine ⟨(u :: names).getLast (List.cons_ne_nil u names), List.getLast?_eq_some_getLast _, ?_⟩
      have hmem := List.getLast_mem (List.cons_ne_nil u names)
      rcases List.mem_cons.1 hmem with heq | hmem
      · rw [heq]
        exact hupper
      · exact hnames _ hmem
  obtain ⟨e, he, hname⟩ := hall
  refine ⟨e, ?_, hname⟩
  have hparts : [c] ++ (lows ++ (groups ++ (['.'] ++ ([u] ++ (names ++ method))))) =
      ([c] ++ lows ++ groups ++ ['.']) ++ (u :: (names ++ method)) := by simp
  rw [hparts, List.getLast?_append_of_ne_nil _ (List.cons_ne_nil _ _)]
  exact he

theorem messageName_matches_iff :
    messageName.Matches b w r ↔ (sequence messageParts).Matches b w r ∧ b.any isWord = false ∧
      r.head?.any isWord = false := by
  have hsplit : messageName.Matches b w r ↔
      (seq .wordEdge (seq (sequence messageParts) .wordEdge)).Matches b w r := by
    have houter : messageName.Matches b w r ↔
        (seq .wordEdge (sequence (messageParts ++ [.wordEdge]))).Matches b w r :=
      matches_sequence_append_iff [.wordEdge] _ (List.cons_ne_nil _ _) (List.cons_ne_nil _ _)
    rw [houter, matches_seq_iff, matches_seq_iff]
    simp only [matches_sequence_append_iff messageParts [.wordEdge]
      (List.cons_ne_nil _ _) (List.cons_ne_nil _ _)]
    rfl
  have hedges {w : List Char} (hw : (sequence messageParts).Matches b w r) :
      Cursor.isWordEdge ⟨b, w ++ r⟩ = true ∧ Cursor.isWordEdge ⟨w.getLast?.or b, r⟩ = true ↔
        b.any isWord = false ∧ r.head?.any isWord = false := by
    obtain ⟨⟨c, hc, hstart⟩, ⟨d, hd, hlast⟩, -⟩ := of_messageParts_match hw
    obtain ⟨cs, rfl⟩ := List.head?_eq_some_iff.1 hc
    rw [hd, Option.some_or, List.cons_append,
      Cursor.isWordEdge_of_word (isWord_of_isNameChar (isNameChar_of_isLowerStart hstart)),
      Cursor.isWordEdge_after_word (isWord_of_isNameChar hlast)]
  rw [hsplit]
  constructor
  · intro h
    obtain ⟨_, _, rfl, hfirst, hrest⟩ := matches_seq_iff.1 h
    obtain ⟨rfl, hstart⟩ := matches_wordEdge_iff.1 hfirst
    obtain ⟨v, _, rfl, hv, hlast⟩ := matches_seq_iff.1 hrest
    obtain ⟨rfl, hend⟩ := matches_wordEdge_iff.1 hlast
    rw [List.append_nil] at hstart ⊢
    exact ⟨hv, (hedges hv).1 ⟨hstart, hend⟩⟩
  · rintro ⟨hw, hclear⟩
    obtain ⟨hstart, hend⟩ := (hedges hw).2 hclear
    have hinner := Matches.seq (v := []) hw (.wordEdge hend)
    rw [List.append_nil] at hinner
    exact .seq (u := []) (.wordEdge hstart) hinner

end Redaction

end CoordinatorGateway
