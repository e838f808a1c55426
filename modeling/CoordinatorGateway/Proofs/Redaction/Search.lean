import CoordinatorGateway.Redaction.Pattern
import Mathlib.Data.List.Basic

namespace CoordinatorGateway

theorem getLast?_append_or (u v : List Char) (b : Option Char) :
    (u ++ v).getLast?.or b = v.getLast?.or (u.getLast?.or b) := by
  rw [List.getLast?_append, Option.or_assoc]

namespace Pattern

variable {α : Type} {p q : Pattern} {b : Option Char} {u v w r : List Char} {c : Char}
  {f : Char → Bool} {next : Cursor → Option α} {place : Cursor} {a : α}

theorem matches_nothing_iff : Matches .nothing b w r ↔ w = [] := by
  constructor
  · rintro ⟨⟩
    rfl
  · rintro rfl
    exact .nothing

theorem matches_char_iff : Matches (.char f) b w r ↔ ∃ c, f c = true ∧ w = [c] := by
  constructor
  · rintro ⟨⟩
    exact ⟨_, ‹_›, rfl⟩
  · rintro ⟨c, hc, rfl⟩
    exact .char hc

theorem matches_wordEdge_iff :
    Matches .wordEdge b w r ↔ w = [] ∧ Cursor.isWordEdge ⟨b, r⟩ = true := by
  constructor
  · rintro ⟨⟩
    exact ⟨rfl, ‹_›⟩
  · rintro ⟨rfl, h⟩
    exact .wordEdge h

theorem matches_textStart_iff : Matches .textStart b w r ↔ w = [] ∧ b = none := by
  constructor
  · rintro ⟨⟩
    exact ⟨rfl, rfl⟩
  · rintro ⟨rfl, rfl⟩
    exact .textStart

theorem matches_seq_iff :
    Matches (.seq p q) b w r ↔
      ∃ u v, w = u ++ v ∧ Matches p b u (v ++ r) ∧ Matches q (u.getLast?.or b) v r := by
  constructor
  · rintro ⟨⟩
    exact ⟨_, _, rfl, ‹_›, ‹_›⟩
  · rintro ⟨u, v, rfl, hu, hv⟩
    exact .seq hu hv

theorem matches_either_iff :
    Matches (.either p q) b w r ↔ Matches p b w r ∨ Matches q b w r := by
  constructor
  · rintro ⟨⟩
    · exact .inl ‹_›
    · exact .inr ‹_›
  · rintro (h | h)
    · exact .left h
    · exact .right h

theorem matches_optional_iff : Matches p.optional b w r ↔ Matches p b w r ∨ w = [] := by
  rw [optional, matches_either_iff, matches_nothing_iff]

theorem matches_many_char_iff : Matches (.many (.char f)) b w r ↔ ∀ c ∈ w, f c = true := by
  constructor
  · intro h
    generalize hp : Pattern.many (.char f) = p at h
    induction h with
    | manyNil => simp
    | @manyCons _ _ u v _ hu _ _ ih =>
      cases hp
      obtain ⟨c, hc, rfl⟩ := matches_char_iff.1 hu
      rw [List.singleton_append, List.forall_mem_cons]
      exact ⟨hc, ih rfl⟩
    | _ => cases hp
  · intro h
    induction w generalizing b with
    | nil => exact .manyNil
    | cons c w ih =>
      rw [List.forall_mem_cons] at h
      exact .manyCons (u := [c]) (.char h.1) (ih h.2)

theorem matches_oneOrMore_char_iff :
    Matches (.oneOrMore (.char f)) b w r ↔ w ≠ [] ∧ ∀ c ∈ w, f c = true := by
  rw [oneOrMore, matches_seq_iff]
  constructor
  · rintro ⟨u, v, rfl, hu, hv⟩
    obtain ⟨c, hc, rfl⟩ := matches_char_iff.1 hu
    refine ⟨List.cons_ne_nil c v, ?_⟩
    rw [List.singleton_append, List.forall_mem_cons]
    exact ⟨hc, matches_many_char_iff.1 hv⟩
  · rintro ⟨hw, h⟩
    obtain ⟨c, w, rfl⟩ := List.exists_cons_of_ne_nil hw
    rw [List.forall_mem_cons] at h
    exact ⟨[c], w, rfl, .char h.1, matches_many_char_iff.2 h.2⟩

theorem exists_of_run_eq_some (h : p.run next place = some a) :
    ∃ u r, place.rest = u ++ r ∧ p.Matches place.before u r ∧
      next ⟨u.getLast?.or place.before, r⟩ = some a := by
  induction p generalizing next place with
  | nothing => exact ⟨[], place.rest, rfl, .nothing, h⟩
  | char f =>
    obtain ⟨b, _ | ⟨c, cs⟩⟩ := place
    · cases h
    · rw [run] at h
      split at h
      · next hc => exact ⟨[c], cs, rfl, .char hc, h⟩
      · cases h
  | wordEdge =>
    rw [run] at h
    split at h
    · next hedge => exact ⟨[], place.rest, rfl, .wordEdge hedge, h⟩
    · cases h
  | textStart =>
    obtain ⟨_ | b, rest⟩ := place
    · exact ⟨[], rest, rfl, .textStart, h⟩
    · cases h
  | seq p q ihp ihq =>
    obtain ⟨u, r, hrest, hu, hrun⟩ := ihp h
    obtain ⟨v, r', hr, hv, hnext⟩ := ihq hrun
    obtain rfl : r = v ++ r' := hr
    refine ⟨u ++ v, r', ?_, .seq hu hv, ?_⟩
    · rw [hrest, List.append_assoc]
    · rw [getLast?_append_or]
      exact hnext
  | either p q ihp ihq =>
    rw [run] at h
    split at h
    · next hp =>
      rw [h] at hp
      obtain ⟨u, r, hrest, hu, hnext⟩ := ihp hp
      exact ⟨u, r, hrest, .left hu, hnext⟩
    · obtain ⟨u, r, hrest, hu, hnext⟩ := ihq h
      exact ⟨u, r, hrest, .right hu, hnext⟩
  | many p ih =>
    rw [run] at h
    -- The bound on the repetitions plays no part here.
    generalize place.rest.length = n at h
    induction n generalizing place with
    | zero => exact ⟨[], place.rest, rfl, .manyNil, h⟩
    | succ n ihn =>
      rw [repeatRun] at h
      split at h
      · next hp =>
        rw [h] at hp
        obtain ⟨u, r, hrest, hu, hrun⟩ := ih hp
        obtain ⟨v, r', hr, hv, hnext⟩ := ihn hrun
        obtain rfl : r = v ++ r' := hr
        refine ⟨u ++ v, r', ?_, .manyCons hu hv, ?_⟩
        · rw [hrest, List.append_assoc]
        · rw [getLast?_append_or]
          exact hnext
      · exact ⟨[], place.rest, rfl, .manyNil, h⟩

theorem repeatRun_isSome (step : (Cursor → Option α) → Cursor → Option α)
    (h : (next place).isSome) (n : Nat) : (repeatRun step next n place).isSome := by
  cases n with
  | zero => exact h
  | succ n =>
    rw [repeatRun]
    split
    · rfl
    · exact h

theorem run_isSome (h : p.Matches b u r) (hnext : (next ⟨u.getLast?.or b, r⟩).isSome) :
    (p.run next ⟨b, u ++ r⟩).isSome := by
  induction p generalizing next b u r with
  | nothing =>
    obtain rfl := matches_nothing_iff.1 h
    exact hnext
  | char f =>
    obtain ⟨c, hc, rfl⟩ := matches_char_iff.1 h
    rw [List.singleton_append, run, if_pos hc]
    exact hnext
  | wordEdge =>
    obtain ⟨rfl, hedge⟩ := matches_wordEdge_iff.1 h
    rw [List.nil_append, run, if_pos hedge]
    exact hnext
  | textStart =>
    obtain ⟨rfl, rfl⟩ := matches_textStart_iff.1 h
    exact hnext
  | seq p q ihp ihq =>
    obtain ⟨u, v, rfl, hu, hv⟩ := matches_seq_iff.1 h
    rw [getLast?_append_or] at hnext
    rw [List.append_assoc]
    exact ihp hu (ihq hv hnext)
  | either p q ihp ihq =>
    rw [run]
    split
    · rfl
    · next hnone =>
      rcases matches_either_iff.1 h with hp | hq
      · have hsome := ihp hp hnext
        rw [hnone] at hsome
        cases hsome
      · exact ihq hq hnext
  | many p ih =>
    have hrepeat (n : Nat) (hn : u.length ≤ n) :
        (repeatRun p.run next n ⟨b, u ++ r⟩).isSome := by
      generalize hq : Pattern.many p = q at h
      induction h generalizing n with
      | manyNil => exact repeatRun_isSome _ hnext n
      | @manyCons _ b u v r hu _ _ ihv =>
        cases hq
        rw [getLast?_append_or] at hnext
        cases u with
        | nil => exact ihv hnext n hn rfl
        | cons c u =>
          simp only [List.cons_append, List.length_cons, List.length_append] at hn
          obtain ⟨n, rfl⟩ : ∃ m, n = m + 1 := ⟨n - 1, by omega⟩
          have hrest := ihv hnext n (by omega) rfl
          rw [List.append_assoc, repeatRun]
          have hstep := ih hu hrest
          split
          · rfl
          · next hnone =>
            rw [hnone] at hstep
            cases hstep
      | _ => cases hq
    refine hrepeat _ ?_
    rw [List.length_append]
    exact Nat.le_add_right _ _

/-- The answer is that of `next` after a match, which no such character follows. -/
def EndsBefore (p : Pattern) (f : Char → Bool) (next : Cursor → Option α) (place : Cursor)
    (a : α) : Prop :=
  ∃ u r, place.rest = u ++ r ∧ p.Matches place.before u r ∧
    next ⟨u.getLast?.or place.before, r⟩ = some a ∧ ∀ c ∈ r.head?, f c = false

theorem EndsBefore.after (hrest : place.rest = u ++ r) (hu : p.Matches place.before u r)
    (h : q.EndsBefore f next ⟨u.getLast?.or place.before, r⟩ a) :
    (Pattern.seq p q).EndsBefore f next place a := by
  obtain ⟨v, r', hr, hv, hnext, hstop⟩ := h
  obtain rfl : r = v ++ r' := hr
  refine ⟨u ++ v, r', ?_, .seq hu hv, ?_, hstop⟩
  · rw [hrest, List.append_assoc]
  · rw [getLast?_append_or]
    exact hnext

theorem EndsBefore.afterMany (hrest : place.rest = u ++ r) (hu : p.Matches place.before u r)
    (h : (Pattern.seq (many p) q).EndsBefore f next ⟨u.getLast?.or place.before, r⟩ a) :
    (Pattern.seq (many p) q).EndsBefore f next place a := by
  obtain ⟨v, r', hr, hv, hnext, hstop⟩ := h
  obtain ⟨v, v', rfl, hmany, hlast⟩ := matches_seq_iff.1 hv
  obtain rfl : r = v ++ v' ++ r' := hr
  rw [List.append_assoc] at hu
  refine ⟨(u ++ v) ++ v', r', ?_, .seq (.manyCons hu hmany) ?_, ?_, hstop⟩
  · rw [hrest, List.append_assoc, List.append_assoc, List.append_assoc]
  · rw [getLast?_append_or]
    exact hlast
  · rw [List.append_assoc, getLast?_append_or]
    exact hnext

/-- Where all that follows is fine, the search goes on as long as there are such characters. -/
def Exhausts (p : Pattern) (f : Char → Bool) : Prop :=
  ∀ ⦃α : Type⦄ ⦃next : Cursor → Option α⦄ ⦃place : Cursor⦄ ⦃a : α⦄,
    (∀ q, (next q).isSome) → p.run next place = some a → p.EndsBefore f next place a

theorem endsBefore_repeatRun_char (htotal : ∀ q, (next q).isSome) {n : Nat}
    (hn : place.rest.length ≤ n) (h : repeatRun (char f).run next n place = some a) :
    (many (.char f)).EndsBefore f next place a := by
  induction n generalizing place with
  | zero =>
    have hrest : place.rest = [] := List.length_eq_zero_iff.1 (Nat.le_zero.1 hn)
    refine ⟨[], place.rest, rfl, .manyNil, h, fun c hc => ?_⟩
    rw [hrest] at hc
    cases hc
  | succ n ih =>
    obtain ⟨b, _ | ⟨c, cs⟩⟩ := place
    · exact ⟨[], [], rfl, .manyNil, h, fun c hc => by cases hc⟩
    · rw [repeatRun, run] at h
      by_cases hc : f c = true
      · rw [if_pos hc] at h
        have hsome := repeatRun_isSome (char f).run (htotal ⟨some c, cs⟩) n
        obtain ⟨a', ha'⟩ := Option.isSome_iff_exists.1 hsome
        rw [ha'] at h
        obtain rfl := Option.some.inj h
        obtain ⟨u, r, hrest, hu, hnext, hstop⟩ := ih (Nat.le_of_succ_le_succ hn) ha'
        obtain rfl : cs = u ++ r := hrest
        refine ⟨c :: u, r, rfl, .manyCons (u := [c]) (.char hc) hu, ?_, hstop⟩
        rw [← List.singleton_append, getLast?_append_or]
        exact hnext
      · rw [if_neg hc] at h
        refine ⟨[], c :: cs, rfl, .manyNil, h, fun d hd => ?_⟩
        obtain rfl : c = d := Option.some.inj hd
        exact Bool.eq_false_iff.2 hc

theorem exhausts_many_char (f : Char → Bool) : (many (.char f)).Exhausts f :=
  fun _ _ _ _ htotal h => endsBefore_repeatRun_char htotal (Nat.le_refl _) h

theorem Exhausts.seq (h : q.Exhausts f) (p : Pattern) : (Pattern.seq p q).Exhausts f := by
  intro α next place a htotal hrun
  have hfirst : p.run (q.run next) place = some a := hrun
  obtain ⟨u, r, hrest, hu, hlast⟩ := exists_of_run_eq_some hfirst
  exact (h htotal hlast).after hrest hu

theorem exhausts_oneOrMore_char (f : Char → Bool) : (oneOrMore (.char f)).Exhausts f :=
  (exhausts_many_char f).seq _

section Pieces

variable {g : Char → Bool}

theorem optional_run_isSome (htotal : ∀ q, (next q).isSome) (place : Cursor) :
    (p.optional.run next place).isSome :=
  run_isSome (u := []) (.right .nothing) (htotal place)

theorem endsBefore_optional (hplace : ∀ c ∈ place.rest.head?, f c = false)
    (hpiece : ∀ b c d cs, g c = true → f d = true →
      ∃ u r, c :: d :: cs = u ++ r ∧ p.Matches b u r)
    (hnone : ∀ u r, place.rest = u ++ r → ¬ p.Matches place.before u r)
    (h : (optional (.char g)).run next place = some a) :
    (Pattern.seq (many p) (optional (.char g))).EndsBefore f next place a := by
  obtain ⟨u, r, hrest, hu, hnext⟩ := exists_of_run_eq_some h
  refine ⟨u, r, hrest, .seq (u := []) .manyNil hu, hnext, fun d hd => ?_⟩
  rcases matches_optional_iff.1 hu with hseparator | rfl
  · obtain ⟨c, hc, rfl⟩ := matches_char_iff.1 hseparator
    obtain ⟨cs, rfl⟩ := List.head?_eq_some_iff.1 hd
    refine Bool.eq_false_iff.2 fun hd => ?_
    obtain ⟨v, s, hv, hmatch⟩ := hpiece place.before c d cs hc hd
    exact hnone v s (hrest.trans hv) hmatch
  · rw [List.nil_append] at hrest
    exact hplace d (hrest ▸ hd)

theorem endsBefore_repeatRun (hp : p.Exhausts f) (hnonempty : ∀ b u r, p.Matches b u r → u ≠ [])
    (hpiece : ∀ b c d cs, g c = true → f d = true →
      ∃ u r, c :: d :: cs = u ++ r ∧ p.Matches b u r)
    (htotal : ∀ q, (next q).isSome) {n : Nat} (hn : place.rest.length ≤ n)
    (hplace : ∀ c ∈ place.rest.head?, f c = false)
    (h : repeatRun p.run ((optional (.char g)).run next) n place = some a) :
    (Pattern.seq (many p) (optional (.char g))).EndsBefore f next place a := by
  induction n generalizing place with
  | zero =>
    have hrest : place.rest = [] := List.length_eq_zero_iff.1 (Nat.le_zero.1 hn)
    refine endsBefore_optional hplace hpiece (fun u r hur hu => ?_) h
    rw [hrest] at hur
    exact hnonempty _ _ _ hu (List.append_eq_nil_iff.1 hur.symm).1
  | succ n ih =>
    have hrepeat (q : Cursor) :=
      repeatRun_isSome p.run (optional_run_isSome (p := .char g) htotal q) n
    rw [repeatRun] at h
    split at h
    · next hstep =>
      rw [h] at hstep
      obtain ⟨u, r, hrest, hu, hrun, hstop⟩ := hp hrepeat hstep
      have hlength : r.length ≤ n := by
        have hpos := List.length_pos_of_ne_nil (hnonempty _ _ _ hu)
        rw [hrest, List.length_append] at hn
        omega
      exact (ih hlength hstop hrun).afterMany hrest hu
    · next hstep =>
      refine endsBefore_optional hplace hpiece (fun u r hur hu => ?_) h
      obtain ⟨b, rest⟩ := place
      obtain rfl : rest = u ++ r := hur
      have hsome := run_isSome hu (hrepeat _)
      rw [hstep] at hsome
      cases hsome

/-- Pieces, perhaps with a separator after the last one, where a separator and a character of a
piece start a piece. -/
theorem Exhausts.pieces (hp : p.Exhausts f) (hnonempty : ∀ b u r, p.Matches b u r → u ≠ [])
    (hpiece : ∀ b c d cs, g c = true → f d = true →
      ∃ u r, c :: d :: cs = u ++ r ∧ p.Matches b u r) :
    (Pattern.seq p (.seq (many p) (optional (.char g)))).Exhausts f := by
  intro α next place a htotal hrun
  have hrest (q : Cursor) : ((Pattern.seq (many p) (optional (.char g))).run next q).isSome :=
    run_isSome (u := []) (.seq (u := []) .manyNil (.right .nothing)) (htotal q)
  obtain ⟨u, r, hr, hu, hrun, hstop⟩ := hp hrest hrun
  exact (endsBefore_repeatRun hp hnonempty hpiece htotal (Nat.le_refl _) hstop hrun).after hr hu

end Pieces

end Pattern

namespace Rule

variable {rule : Rule} {b : Option Char} {lead body cs : List Char}

/-- The search at a place finds a lead and a body, and `cs` is left. -/
def Finds (rule : Rule) (b : Option Char) (lead body cs : List Char) : Prop :=
  rule.find? ⟨b, lead ++ body ++ cs⟩ =
    some (⟨lead.getLast?.or b, body ++ cs⟩, ⟨(lead ++ body).getLast?.or b, cs⟩)

theorem find?_isSome (hlead : rule.lead.Matches b lead (body ++ cs))
    (hbody : rule.body.Matches (lead.getLast?.or b) body cs) :
    (rule.find? ⟨b, lead ++ body ++ cs⟩).isSome := by
  rw [List.append_assoc]
  exact Pattern.run_isSome hlead (Pattern.run_isSome hbody rfl)

theorem exists_finds_of_find?_isSome {place : Cursor} (h : (rule.find? place).isSome) :
    ∃ lead body cs, place.rest = lead ++ body ++ cs ∧ rule.Finds place.before lead body cs := by
  obtain ⟨b, rest⟩ := place
  obtain ⟨found, hfound⟩ := Option.isSome_iff_exists.1 h
  obtain ⟨lead, rest', hrest, -, hrun⟩ := Pattern.exists_of_run_eq_some hfound
  obtain ⟨body, cs, hbody, -, hend⟩ := Pattern.exists_of_run_eq_some hrun
  obtain rfl : rest' = body ++ cs := hbody
  obtain rfl : rest = lead ++ (body ++ cs) := hrest
  refine ⟨lead, body, cs, (List.append_assoc _ _ _).symm, ?_⟩
  rw [Finds, List.append_assoc, hfound, ← Option.some.inj hend, getLast?_append_or]

theorem Finds.matches (h : rule.Finds b lead body cs) :
    rule.lead.Matches b lead (body ++ cs) ∧
      rule.body.Matches (lead.getLast?.or b) body cs := by
  obtain ⟨u, r, hrest, hlead, hrun⟩ := Pattern.exists_of_run_eq_some h
  obtain ⟨v, r', hr, hbody, hend⟩ := Pattern.exists_of_run_eq_some hrun
  simp only [Option.some.injEq, Prod.mk.injEq, Cursor.mk.injEq] at hend
  obtain ⟨⟨-, rfl⟩, -, rfl⟩ := hend
  obtain rfl := List.append_cancel_right hr
  obtain rfl := List.append_cancel_right ((List.append_assoc _ _ _).symm.trans hrest)
  exact ⟨hlead, hbody⟩

theorem Finds.stops {f : Char → Bool} (h : rule.Finds b lead body cs)
    (hbody : rule.body.Exhausts f) : ∀ c ∈ cs.head?, f c = false := by
  obtain ⟨u, r, -, -, hrun⟩ := Pattern.exists_of_run_eq_some h
  obtain ⟨v, r', -, -, hend, hstop⟩ := hbody (fun _ => rfl) hrun
  simp only [Option.some.injEq, Prod.mk.injEq, Cursor.mk.injEq] at hend
  obtain ⟨-, -, rfl⟩ := hend
  exact hstop

end Rule

end CoordinatorGateway
