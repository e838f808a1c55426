import CoordinatorGateway.Proofs.Redaction.Search

namespace CoordinatorGateway

namespace Rule

/-- A lead is one character at most, a body is not empty, and the token is a word in brackets. -/
structure Regular (rule : Rule) : Prop where
  lead : ∀ {b u r}, rule.lead.Matches b u r → u.length ≤ 1
  body : ∀ {b u r}, rule.body.Matches b u r → u ≠ []
  token : ∃ word, rule.token = '[' :: word ++ [']'] ∧ ∀ c ∈ word, c.isLower = true

/-- The text after `b` becomes the other one. -/
inductive Rewrites (rule : Rule) : Option Char → List Char → List Char → Prop
  | done {b} : Rewrites rule b [] []
  | keep {b c cs out} (hnone : rule.find? ⟨b, c :: cs⟩ = none)
      (hrest : Rewrites rule (some c) cs out) : Rewrites rule b (c :: cs) (c :: out)
  | swap {b lead body cs out} (hfinds : rule.Finds b lead body cs)
      (hrest : Rewrites rule ((lead ++ body).getLast?.or b) cs out) :
      Rewrites rule b (lead ++ body ++ cs) (lead ++ rule.token ++ out)

variable {rule : Rule} {b : Option Char} {cs out x y z lead body : List Char}

theorem rewrites_replaceFrom (hregular : rule.Regular) {n : Nat} (hn : cs.length < n) :
    rule.Rewrites b cs (rule.replaceFrom n ⟨b, cs⟩) := by
  induction n generalizing b cs with
  | zero => cases hn
  | succ n ih =>
    rw [replaceFrom]
    cases hfound : rule.find? ⟨b, cs⟩ with
    | none =>
      cases cs with
      | nil => exact .done
      | cons c cs => exact .keep hfound (ih (Nat.lt_of_succ_lt_succ hn))
    | some found =>
      obtain ⟨lead, body, rest, hcs, hfinds⟩ :=
        exists_finds_of_find?_isSome (Option.isSome_iff_exists.2 ⟨found, hfound⟩)
      obtain rfl : cs = lead ++ body ++ rest := hcs
      have hends := hfinds
      rw [Finds, hfound] at hends
      obtain rfl := Option.some.inj hends
      have hbody := List.length_pos_of_ne_nil (hregular.body hfinds.matches.2)
      have hlead : (lead ++ body ++ rest).take
          ((lead ++ body ++ rest).length - (body ++ rest).length) = lead := by
        rw [List.append_assoc, List.length_append, Nat.add_sub_cancel, List.take_left]
      have hlength : rest.length < n := by
        simp only [List.length_append] at hn
        omega
      dsimp only
      rw [hlead]
      exact .swap hfinds (ih hlength)

theorem rewrites_apply (hregular : rule.Regular) (cs : List Char) :
    rule.Rewrites none cs (rule.apply cs) :=
  rewrites_replaceFrom hregular (Nat.lt_succ_self cs.length)

theorem Regular.getLast?_token (hregular : rule.Regular) : rule.token.getLast? = some ']' := by
  obtain ⟨word, htoken, -⟩ := hregular.token
  rw [htoken, List.getLast?_concat]

theorem Regular.head?_token (hregular : rule.Regular) : rule.token.head? = some '[' := by
  obtain ⟨word, htoken, -⟩ := hregular.token
  rw [htoken, List.cons_append, List.head?_cons]

theorem Regular.not_mem_token (hregular : rule.Regular) {c : Char} (hopen : c ≠ '[')
    (hclose : c ≠ ']') (hlower : c.isLower = false) : c ∉ rule.token := by
  obtain ⟨word, htoken, hword⟩ := hregular.token
  rw [htoken]
  simp only [List.cons_append, List.mem_cons, List.mem_append, List.not_mem_nil, or_false, not_or]
  refine ⟨hopen, fun hc => ?_, hclose⟩
  rw [hword c hc] at hlower
  cases hlower

/-- Both texts go on with the same character, or the one with a token for a match in the other. -/
def Continues (rule : Rule) (b : Option Char) (z z' : List Char) : Prop :=
  z.head? = z'.head? ∨ z.head? = some '[' ∧ ∃ b' lead body cs,
    z' = body ++ cs ∧ lead.getLast?.or b' = b ∧ rule.Finds b' lead body cs

/-- The same character comes before both texts, or a token and, in the other one, its match. -/
def Joins (rule : Rule) (b : Option Char) (x x' cs : List Char) : Prop :=
  x.getLast?.or b = x'.getLast?.or b ∨ x.getLast? = some ']' ∧ ∃ w lead body,
    x' = w ++ lead ++ body ∧ rule.Finds (w.getLast?.or b) lead body cs

theorem Joins.prepend {p q x x' cs : List Char} (h : rule.Joins (p.getLast?.or b) x x' cs)
    (hpart : x = [] → q = p) : rule.Joins b (q ++ x) (p ++ x') cs := by
  rcases h with hsame | ⟨hend, w, lead, body, rfl, hfinds⟩
  · left
    rw [getLast?_append_or, getLast?_append_or, ← hsame]
    cases x with
    | nil => rw [hpart rfl]
    | cons c x => rw [List.getLast?_cons, Option.some_or, Option.some_or]
  · refine .inr ⟨?_, p ++ w, lead, body, ?_, ?_⟩
    · rw [List.getLast?_append, hend]
      rfl
    · simp only [List.append_assoc]
    · rw [getLast?_append_or]
      exact hfinds

theorem Regular.length_le_one (hregular : rule.Regular) (hfinds : rule.Finds b lead body cs)
    (h : lead ++ rule.token ++ out = y ++ z) (hopen : '[' ∉ y) : y.length ≤ 1 := by
  obtain ⟨word, htoken, -⟩ := hregular.token
  have hlead := hregular.lead hfinds.matches.1
  rw [htoken, List.append_assoc] at h
  rcases List.append_eq_append_iff.1 h with ⟨t, rfl, ht⟩ | ⟨t, rfl, -⟩
  · cases t with
    | nil => simpa using hlead
    | cons c t =>
      simp only [List.cons_append, List.cons.injEq] at ht
      exact absurd (List.mem_append_right lead (ht.1 ▸ List.mem_cons_self)) hopen
  · rw [List.length_append] at hlead
    omega

namespace Rewrites

theorem continues (h : rule.Rewrites b cs out) (hregular : rule.Regular) :
    rule.Continues b out cs := by
  cases h with
  | done => exact .inl rfl
  | keep => exact .inl rfl
  | @swap _ lead body cs out hfinds _ =>
    cases lead with
    | nil =>
      refine .inr ⟨?_, b, [], body, cs, rfl, rfl, hfinds⟩
      rw [List.nil_append, List.head?_append, hregular.head?_token]
      rfl
    | cons c lead => exact .inl rfl

theorem start (h : rule.Rewrites b cs (y ++ z)) (hregular : rule.Regular) (hopen : '[' ∉ y) :
    ∃ z', cs = y ++ z' ∧ rule.Continues (y.getLast?.or b) z z' := by
  induction y generalizing b cs with
  | nil => exact ⟨cs, rfl, h.continues hregular⟩
  | cons c y ih =>
    rw [List.mem_cons, not_or] at hopen
    generalize hout : c :: y ++ z = out at h
    cases h with
    | done => cases hout
    | keep hnone hrest =>
      obtain ⟨rfl, rfl⟩ := List.cons.inj hout
      obtain ⟨z', rfl, hcontinues⟩ := ih hrest hopen.2
      refine ⟨z', rfl, ?_⟩
      rw [← List.singleton_append, getLast?_append_or]
      exact hcontinues
    | @swap _ lead body cs out hfinds _ =>
      have hlength := hregular.length_le_one hfinds hout.symm
        (List.mem_cons.not.2 (not_or.2 hopen))
      obtain rfl : y = [] :=
        List.length_eq_zero_iff.1 (Nat.le_zero.1 (Nat.le_of_succ_le_succ hlength))
      have hlead := hregular.lead hfinds.matches.1
      have hhead := hregular.head?_token
      -- A bracket does not come first, so the character is the lead.
      rcases lead with _ | ⟨d, _ | ⟨d', lead⟩⟩
      · obtain ⟨word, htoken, -⟩ := hregular.token
        rw [htoken] at hout
        exact absurd (List.cons.inj hout).1.symm hopen.1
      · obtain ⟨rfl, hz⟩ := List.cons.inj hout
        refine ⟨body ++ cs, rfl, .inr ⟨?_, b, [c], body, cs, rfl, rfl, hfinds⟩⟩
        obtain rfl : z = rule.token ++ out := hz
        rw [List.head?_append, hhead]
        rfl
      · simp at hlead

theorem find?_eq_none (h : rule.Rewrites b cs (y ++ z)) (hregular : rule.Regular)
    (hopen : '[' ∉ y) (hlength : 1 < y.length) : rule.find? ⟨b, cs⟩ = none := by
  generalize hout : y ++ z = out at h
  cases h with
  | done =>
    obtain ⟨rfl, -⟩ := List.append_eq_nil_iff.1 hout
    cases hlength
  | keep hnone _ => exact hnone
  | swap hfinds _ =>
    exact absurd hlength (Nat.not_lt.2 (hregular.length_le_one hfinds hout.symm hopen))

/-- A part that has no bracket, and something that the token lacks, is no part of a token. -/
theorem clear_of_token (hregular : rule.Regular) (hlead : lead.length ≤ 1) (hx : x ≠ [])
    (hopen : '[' ∉ y) (hclose : ']' ∉ y) (hword : ∃ c ∈ y, c ∉ rule.token)
    (h : lead ++ rule.token ++ out = x ++ (y ++ z)) :
    ∃ w, x = lead ++ rule.token ++ w ∧ out = w ++ (y ++ z) := by
  rcases List.append_eq_append_iff.1 h with hafter | ⟨t, hin, hyz⟩
  · exact hafter
  · obtain ⟨s, rfl⟩ : ∃ s, x = lead ++ s := by
      rcases List.append_eq_append_iff.1 hin with ⟨s, hs, -⟩ | ⟨s, hs, -⟩
      · exact ⟨s, hs⟩
      · refine ⟨[], ?_⟩
        have hpos := List.length_pos_of_ne_nil hx
        rw [hs, List.length_append] at hlead
        obtain rfl := List.length_eq_zero_iff.1 (show s.length = 0 by omega)
        rw [hs, List.append_nil, List.append_nil]
    rw [List.append_assoc] at hin
    have htoken := List.append_cancel_left hin
    rcases List.append_eq_append_iff.1 hyz with ⟨v, rfl, -⟩ | ⟨v, rfl, rfl⟩
    · obtain ⟨c, hc, hnot⟩ := hword
      rw [htoken] at hnot
      exact absurd (List.mem_append_right s (List.mem_append_left v hc)) hnot
    · cases t with
      | nil =>
        rw [List.append_nil] at htoken
        exact ⟨[], by rw [htoken, List.append_nil], rfl⟩
      | cons c t =>
        have hlast := hregular.getLast?_token
        rw [htoken, List.getLast?_append_of_ne_nil _ (List.cons_ne_nil c t)] at hlast
        exact absurd (List.mem_append_left v (List.mem_of_getLast? hlast)) hclose

theorem kept (h : rule.Rewrites b cs (x ++ (y ++ z))) (hregular : rule.Regular)
    (hopen : '[' ∉ y) (hclose : ']' ∉ y) (hword : ∃ c ∈ y, c ∉ rule.token) :
    ∃ x' z', cs = x' ++ (y ++ z') ∧ rule.Joins b x x' (y ++ z') ∧
      rule.Continues ((x' ++ y).getLast?.or b) z z' ∧
      (1 < y.length → rule.find? ⟨x'.getLast?.or b, y ++ z'⟩ = none) := by
  generalize hout : x ++ (y ++ z) = out at h
  induction h generalizing x with
  | done =>
    obtain ⟨c, hc, -⟩ := hword
    obtain ⟨-, hyz⟩ := List.append_eq_nil_iff.1 hout
    obtain ⟨rfl, -⟩ := List.append_eq_nil_iff.1 hyz
    cases hc
  | @keep b c cs out hnone hrest ih =>
    cases x with
    | nil =>
      have hwhole : rule.Rewrites b (c :: cs) (y ++ z) := hout ▸ .keep hnone hrest
      obtain ⟨z', hcs, hcontinues⟩ := hwhole.start hregular hopen
      exact ⟨[], z', hcs, .inl rfl, hcontinues, fun _ => hcs ▸ hnone⟩
    | cons d x =>
      obtain ⟨rfl, hrest'⟩ := List.cons.inj hout
      obtain ⟨x', z', rfl, hjoins, hcontinues, hfind⟩ := ih hrest'
      refine ⟨d :: x', z', rfl, hjoins.prepend (p := [d]) fun _ => rfl, ?_, ?_⟩
      · rw [List.cons_append, ← List.singleton_append, getLast?_append_or]
        exact hcontinues
      · rw [← List.singleton_append, getLast?_append_or]
        exact hfind
  | @swap b lead body cs out hfinds hrest ih =>
    cases x with
    | nil =>
      have hwhole : rule.Rewrites b (lead ++ body ++ cs) (y ++ z) := hout ▸ .swap hfinds hrest
      obtain ⟨z', hcs, hcontinues⟩ := hwhole.start hregular hopen
      exact ⟨[], z', hcs, .inl rfl, hcontinues, fun hlength =>
        hcs ▸ hwhole.find?_eq_none hregular hopen hlength⟩
    | cons d x =>
      obtain ⟨w, hx, rfl⟩ := clear_of_token hregular (hregular.lead hfinds.matches.1)
        (List.cons_ne_nil d x) hopen hclose hword hout.symm
      rw [hx]
      cases w with
      | nil =>
        have hrest' : rule.Rewrites ((lead ++ body).getLast?.or b) cs (y ++ z) := hrest
        obtain ⟨z', rfl, hcontinues⟩ := hrest'.start hregular hopen
        refine ⟨lead ++ body, z', rfl, .inr ⟨?_, [], lead, body, rfl, hfinds⟩, ?_, ?_⟩
        · rw [List.append_nil, List.getLast?_append, hregular.getLast?_token]
          rfl
        · rw [getLast?_append_or]
          exact hcontinues
        · exact hrest'.find?_eq_none hregular hopen
      | cons e w =>
        obtain ⟨x', z', rfl, hjoins, hcontinues, hfind⟩ := ih rfl
        refine ⟨lead ++ body ++ x', z', ?_, hjoins.prepend nofun, ?_, ?_⟩
        · rw [List.append_assoc (lead ++ body)]
        · rw [List.append_assoc, getLast?_append_or]
          exact hcontinues
        · rw [getLast?_append_or]
          exact hfind

end Rewrites

end Rule

end CoordinatorGateway
