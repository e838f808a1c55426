import CoordinatorGateway.Proofs.Redaction.Leftovers
import CoordinatorGateway.Proofs.Text.Trimming

namespace CoordinatorGateway.Redaction

open Pattern Unicode

variable {cs lead body rest l r x y z : List Char} {b : Option Char} {c : Char} {p : Pattern}

theorem isUrlChar_of_isLetter (h : isLetter c = true) : isUrlChar c = true :=
  isUrlChar_of_isAlphanum (isAlphanum_of_isLetter h)

theorem isFileNameChar_of_isLetter (h : isLetter c = true) : isFileNameChar c = true := by
  rw [isFileNameChar, isAlphanum_of_isLetter h]
  rfl

theorem isLetter_eq_false {f : Char → Bool} (hall : ∀ {c}, isLetter c = true → f c = true)
    (h : f c = false) : isLetter c = false := by
  rw [Bool.eq_false_iff]
  intro hletter
  rw [hall hletter] at h
  cases h

theorem isLetter_eq_false_of_any (h : rest.head?.any isWord = false) :
    ∀ c ∈ rest.head?, isLetter c = false := by
  intro c hc
  rw [hc] at h
  exact isLetter_eq_false (fun hl => isWord_of_isAlphanum (isAlphanum_of_isLetter hl)) h

theorem exists_urlChar_of_drive {d : List Char} {s : Char}
    (hd : d = [] ∨ ∃ l, isLetter l = true ∧ d = [l, ':']) (hs : isSlash s = true) :
    ∃ c ∈ (d ++ s :: rest).head?, isUrlChar c = true := by
  rcases hd with rfl | ⟨l, hl, rfl⟩
  · exact ⟨s, rfl, isUrlChar_of_isSlash hs⟩
  · exact ⟨l, rfl, isUrlChar_of_isLetter hl⟩

theorem urlRule_sparesUrls (cs : List Char) : SparesUrls urlRule cs where
  start hfinds := by
    obtain ⟨l, s, t, rfl, hl, -⟩ := url_matches_iff.1 hfinds.matches.2
    exact ⟨l, rfl, isUrlChar_of_isLetter hl⟩
  stop _ hfinds c hc := isLetter_eq_false isUrlChar_of_isLetter (hfinds.stops url_exhausts c hc)

theorem hostPortRule_sparesUrls (cs : List Char) : SparesUrls hostPortRule cs where
  start hfinds := by
    obtain ⟨c, hc, rfl | hletter⟩ := (of_hostPort_matches hfinds.matches.2).1
    · exact ⟨'[', hc, rfl⟩
    · exact ⟨c, hc, isUrlChar_of_isAlphanum hletter⟩
  stop _ hfinds := isLetter_eq_false_of_any (of_hostPort_matches hfinds.matches.2).2

theorem pathRule_sparesUrls (cs : List Char) : SparesUrls pathRule cs where
  start hfinds := by
    obtain ⟨d, s, f, fs, s', f', t, rfl, hd, hs, -⟩ := exists_of_path_matches hfinds.matches.2
    exact exists_urlChar_of_drive hd hs
  stop _ hfinds c hc :=
    isLetter_eq_false isFileNameChar_of_isLetter (hfinds.stops path_exhausts c hc)

theorem messageNameRule_sparesUrls (cs : List Char) : SparesUrls messageNameRule cs where
  start hfinds := by
    obtain ⟨c, hc, hstart⟩ :=
      (of_messageParts_match (messageName_matches_iff.1 hfinds.matches.2).1).1
    exact ⟨c, hc, isUrlChar_of_isNameChar (isNameChar_of_isLowerStart hstart)⟩
  stop _ hfinds := isLetter_eq_false_of_any (messageName_matches_iff.1 hfinds.matches.2).2.2

theorem loneSegment_stops (h : loneSegmentRule.Finds b lead body rest) :
    (∀ c ∈ rest.head?, isFileNameChar c = false) ∨
      ∃ u s f fs s', lead ++ body = u ++ s :: f :: (fs ++ [s']) ∧ isSlash s = true ∧
        isFileNameChar f = true ∧ (∀ e ∈ fs, isFileNameChar e = true) ∧ isSlash s' = true := by
  have htotal (start q : Cursor) :
      ((char isSlash).optional.run (fun stop => some (start, stop)) q).isSome :=
    optional_run_isSome (fun _ => rfl) q
  obtain ⟨u, afterLead, hlead, -, hbody⟩ := exists_of_run_eq_some h
  obtain ⟨d, afterDrive, hdrive, -, hsegment⟩ := exists_of_run_eq_some (p := drive) hbody
  rw [show sequence [segment, (char isSlash).optional] = .seq segment _ from rfl,
    Pattern.run] at hsegment
  obtain ⟨v, afterSegment, hrest, hv, hlast, hstop⟩ := segment_exhausts (htotal _) hsegment
  obtain ⟨t, after, hslash, ht, hend⟩ := exists_of_run_eq_some hlast
  simp only [Option.some.injEq, Prod.mk.injEq, Cursor.mk.injEq] at hend
  obtain ⟨-, -, rfl⟩ := hend
  obtain rfl : afterSegment = t ++ after := hslash
  rcases matches_optional_iff.1 ht with hchar | rfl
  · obtain ⟨s', hs', rfl⟩ := matches_char_iff.1 hchar
    obtain ⟨s, f, fs, rfl, hs, hf, hfs⟩ := segment_matches_iff.1 hv
    obtain rfl : afterDrive = s :: f :: fs ++ ([s'] ++ after) := hrest
    obtain rfl : afterLead = d ++ (s :: f :: fs ++ ([s'] ++ after)) := hdrive
    have hread : lead ++ body ++ after = (u ++ d ++ s :: f :: (fs ++ [s'])) ++ after := by
      rw [show lead ++ body ++ after = _ from hlead]
      simp
    exact .inr ⟨u ++ d, s, f, fs, s', List.append_cancel_right hread, hs, hf, hfs, hs'⟩
  · exact .inl hstop

theorem loneSegmentRule_sparesUrls (hpath : ¬ path.Occurs cs) :
    SparesUrls loneSegmentRule cs where
  start hfinds := by
    obtain ⟨d, s, f, fs, t, rfl, hd, hs, -⟩ := loneSegment_matches_iff.1 hfinds.matches.2
    exact exists_urlChar_of_drive hd hs
  stop {w lead body rest} hcs hfinds c hc := by
    rcases loneSegment_stops hfinds with hstop | ⟨u, s, f, fs, s', hbody, hs, hf, hfs, hs'⟩
    · exact isLetter_eq_false isFileNameChar_of_isLetter (hstop c hc)
    · -- One more segment would make it a path.
      rw [Bool.eq_false_iff]
      intro hletter
      obtain ⟨rest, rfl⟩ := List.head?_eq_some_iff.1 hc
      refine hpath ⟨w ++ u, s :: f :: (fs ++ [s', c]), rest, ?_,
        path_matches hs hf hfs hs' (isFileNameChar_of_isLetter hletter) _ _⟩
      rw [hcs, List.append_assoc w, hbody]
      simp

theorem not_overlooks_body {rule : Rule} (hlead : rule.lead = .nothing) (cs : List Char) :
    ¬ rule.Overlooks rule.body cs := by
  rintro ⟨x, y, z, hcs, hmatch, hnone⟩
  exact rule.not_overlooks_pattern cs
    ⟨x, y, z, hcs, (Rule.matches_pattern_iff hlead).2 hmatch, hnone⟩

/-- What the rules look for, less the host with a port: a token can come to stand before a port. -/
def leakPatterns : List Pattern := [url, path, loneSegmentRule.pattern, messageName]

theorem rules_leave_nothing (cs : List Char) :
    ∀ p ∈ leakPatterns, ¬ p.Occurs (rules.foldl (fun text rule => rule.apply text) cs) := by
  simp only [rules, List.foldl_cons, List.foldl_nil]
  generalize hurls : urlRule.apply cs = urls
  generalize haddresses : hostPortRule.apply urls = addresses
  generalize hpaths : pathRule.apply addresses = paths
  generalize hsegments : loneSegmentRule.apply paths = segments
  have url₁ : ¬ url.Occurs urls := fun h =>
    not_overlooks_body rfl cs (overlooks_url urlRule_regular (urlRule_sparesUrls cs) (hurls ▸ h))
  have url₂ : ¬ url.Occurs addresses := fun h => url₁
    (overlooks_url hostPortRule_regular (hostPortRule_sparesUrls urls) (haddresses ▸ h)).occurs
  have url₃ : ¬ url.Occurs paths := fun h => url₂
    (overlooks_url pathRule_regular (pathRule_sparesUrls addresses) (hpaths ▸ h)).occurs
  have path₃ : ¬ path.Occurs paths := fun h =>
    not_overlooks_body rfl addresses (overlooks_path pathRule_regular (hpaths ▸ h))
  have url₄ : ¬ url.Occurs segments := fun h => url₃
    (overlooks_url loneSegmentRule_regular (loneSegmentRule_sparesUrls path₃)
      (hsegments ▸ h)).occurs
  have path₄ : ¬ path.Occurs segments := fun h =>
    path₃ (overlooks_path loneSegmentRule_regular (hsegments ▸ h)).occurs
  have segment₄ : ¬ loneSegmentRule.pattern.Occurs segments := fun h =>
    loneSegmentRule.not_overlooks_pattern paths
      (overlooks_loneSegment loneSegmentRule_regular (hsegments ▸ h))
  simp only [leakPatterns, List.forall_mem_cons, List.not_mem_nil, false_implies, implies_true,
    and_true]
  refine ⟨fun h => url₄ ?_, fun h => path₄ ?_, fun h => segment₄ ?_, fun h => ?_⟩
  · exact (overlooks_url messageNameRule_regular (messageNameRule_sparesUrls segments) h).occurs
  · exact (overlooks_path messageNameRule_regular h).occurs
  · exact (overlooks_loneSegment messageNameRule_regular h).occurs
  · exact not_overlooks_body rfl segments (overlooks_messageName messageNameRule_regular h)

theorem any_isWord_before (hl : ∀ c ∈ l, isBlank c = true) (x : List Char) :
    (l ++ x).getLast?.any isWord = x.getLast?.any isWord := by
  rw [List.getLast?_append]
  cases x.getLast? with
  | some c => rfl
  | none =>
    rw [Option.none_or]
    cases hlast : l.getLast? with
    | none => rfl
    | some c => exact isWord_of_isBlank (hl c (List.mem_of_getLast? hlast))

theorem any_isWord_after (hr : ∀ c ∈ r, isBlank c = true) (z : List Char) :
    (z ++ r).head?.any isWord = z.head?.any isWord := by
  cases z with
  | cons c z => rfl
  | nil =>
    cases r with
    | nil => rfl
    | cons c r => exact isWord_of_isBlank (hr c List.mem_cons_self)

/-- Blanks around a text are no part of a match but for the lead of a segment. -/
theorem occurs_of_trimmed (hp : p ∈ leakPatterns) (hl : ∀ c ∈ l, isBlank c = true)
    (hr : ∀ c ∈ r, isBlank c = true) (h : p.Occurs cs) : p.Occurs (l ++ (cs ++ r)) := by
  obtain ⟨x, y, z, rfl, hmatch⟩ := h
  have hsplit : l ++ (x ++ (y ++ z) ++ r) = (l ++ x) ++ (y ++ (z ++ r)) := by simp
  rw [hsplit]
  simp only [leakPatterns, List.mem_cons, List.not_mem_nil, or_false] at hp
  rcases hp with rfl | rfl | rfl | rfl
  · refine ⟨l ++ x, y, z ++ r, rfl, ?_⟩
    rw [url_matches_iff, any_isWord_before hl, ← url_matches_iff]
    exact hmatch
  · exact ⟨l ++ x, y, z ++ r, rfl, matches_anywhere (by decide) hmatch _ _⟩
  · obtain ⟨lead, body, rfl, hlead, hbody⟩ := matches_seq_iff.1 hmatch
    have hanywhere (b : Option Char) : loneSegment.Matches b body (z ++ r) :=
      matches_anywhere (by decide) hbody _ _
    rcases segmentLead_matches_iff.1 hlead with ⟨rfl, hx⟩ | ⟨c, hc, rfl⟩
    · obtain rfl := List.getLast?_eq_none_iff.1 hx
      rw [List.append_nil, List.nil_append]
      rcases List.eq_nil_or_concat l with rfl | ⟨l, c, rfl⟩
      · exact ⟨[], [] ++ body, z ++ r, rfl,
          .seq (segmentLead_matches_iff.2 (.inl ⟨rfl, rfl⟩)) (hanywhere _)⟩
      · have hopens : opensSegment c = true := by
          rw [opensSegment, hl c (by simp)]
          rfl
        exact ⟨l, [c] ++ body, z ++ r, by simp,
          .seq (segmentLead_matches_iff.2 (.inr ⟨c, hopens, rfl⟩)) (hanywhere _)⟩
    · exact ⟨l ++ x, [c] ++ body, z ++ r, rfl,
        .seq (segmentLead_matches_iff.2 (.inr ⟨c, hc, rfl⟩)) (hanywhere _)⟩
  · refine ⟨l ++ x, y, z ++ r, rfl, ?_⟩
    obtain ⟨hparts, hbefore, hafter⟩ := messageName_matches_iff.1 hmatch
    rw [messageName_matches_iff, any_isWord_before hl, any_isWord_after hr]
    exact ⟨matches_anywhere (by decide) hparts _ _, hbefore, hafter⟩

theorem not_occurs_trimChars (hp : p ∈ leakPatterns) (h : ¬ p.Occurs cs) :
    ¬ p.Occurs (trimChars cs) := by
  obtain ⟨l, r, hcs, hl, hr⟩ := Text.exists_blanks cs
  intro hoccurs
  rw [hcs] at h
  exact h (occurs_of_trimmed hp hl hr hoccurs)

/-- A text that need not be cut has nothing left that one of the four patterns matches, nor did the
tokens, the new neighbours of what was kept, or the trimming make any. -/
theorem redact_leaves_nothing (message : String)
    (h : (redactChars message.toList).length ≤ maxLength) :
    ∀ p ∈ leakPatterns, ¬ p.Occurs (redact message).toList := by
  intro p hp
  rw [redact, String.toList_ofList, shorten, if_pos h, redactChars]
  exact not_occurs_trimChars hp (rules_leave_nothing message.toList p hp)

theorem redact_leaves_nothing_dial :
    (redactChars "open /srv: dial http://c:1/, a.b.C ".toList).length ≤ maxLength ∧
      ∀ p ∈ leakPatterns, ¬ p.Occurs (redact "open /srv: dial http://c:1/, a.b.C ").toList :=
  ⟨by decide +kernel, redact_leaves_nothing _ (by decide +kernel)⟩

end CoordinatorGateway.Redaction
