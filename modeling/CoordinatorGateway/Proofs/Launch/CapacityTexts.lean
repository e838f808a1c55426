import CoordinatorGateway.Proofs.Json.Digits
import CoordinatorGateway.Proofs.Json.Strings
import CoordinatorGateway.Proofs.Launch.Orders
import CoordinatorGateway.Proofs.Text.Trimming

namespace CoordinatorGateway

theorem Binary64.splitSign_of_digit {d : Char} (hd : d.isDigit = true) (ds : List Char) :
    splitSign (d :: ds) = (false, d :: ds) := by
  rw [splitSign]
  · rintro _ h
    obtain ⟨rfl, -⟩ := List.cons.inj h
    cases hd
  · rintro _ h
    obtain ⟨rfl, -⟩ := List.cons.inj h
    cases hd

theorem Binary64.readDecimal?_digits {ds : List Char} (hne : ds ≠ [])
    (hds : ∀ d ∈ ds, d.isDigit = true) :
    readDecimal? false ds = some (ofDecimal false (Nat.ofDigitChars 10 ds 0) 0) := by
  have hsome : ds.isEmpty = false := List.isEmpty_eq_false_iff.2 hne
  rw [readDecimal?, List.takeWhile_eq_self_iff.2 hds, List.dropWhile_eq_nil_iff.2 hds]
  dsimp only
  rw [hsome, List.append_nil]
  rfl

theorem Binary64.read?_toString (n : Nat) : read? (toString n) = some (ofQuotient false n 1) := by
  have hdigits := Json.isDigit_toDigits n
  have hne := Nat.toDigits_ne_nil (n := n) (b := 10)
  have hsign : splitSign (Nat.toDigits 10 n) = (false, Nat.toDigits 10 n) := by
    cases hds : Nat.toDigits 10 n with
    | nil => exact absurd hds hne
    | cons d ds =>
      rw [hds, List.forall_mem_cons] at hdigits
      exact splitSign_of_digit hdigits.1 ds
  rw [read?, Json.toList_toString, hsign]
  dsimp only
  rw [readDecimal?_digits hne hdigits, Nat.ofDigitChars_ten_toDigits, ofDecimal_whole]

namespace Capacity

open Unicode

variable {before after : String} {n k max : Nat}

theorem trim_digits (hbefore : ∀ c ∈ before.toList, isBlank c = true)
    (hafter : ∀ c ∈ after.toList, isBlank c = true) (n : Nat) :
    Text.trim (before ++ toString n ++ after) = toString n := by
  have hvisible : ∀ c ∈ (toString n).toList, isBlank c = false := by
    rw [Json.toList_toString]
    intro d hd
    have hcode := Char.isDigit_iff.1 (Json.isDigit_toDigits n d hd)
    exact Text.isBlank_eq_false ⟨by omega, by omega⟩
  have hne : (toString n).toList ≠ [] := by
    rw [Json.toList_toString]
    exact Nat.toDigits_ne_nil
  rw [Text.trim, String.toList_append, String.toList_append, List.append_assoc,
    Text.trimChars_append hbefore hne hvisible hafter, String.ofList_toList]

theorem ofJson_digits (hbefore : ∀ c ∈ before.toList, isBlank c = true)
    (hafter : ∀ c ∈ after.toList, isBlank c = true) (n : Nat) :
    ofJson (.string (before ++ toString n ++ after)) = .ok (.ofQuotient false n 1) := by
  unfold ofJson
  dsimp only
  rw [trim_digits hbefore hafter, Binary64.read?_toString]

/-- The check sees a whole number as it is if it may be accepted, and else as too large a number or
as none. -/
theorem check_standsFor {x : Binary64} (h : x.StandsFor n) (hmax : max < 2 ^ 53) :
    check x max = .ok k ↔ k = n ∧ 1 ≤ n ∧ n ≤ max := by
  rw [check_eq_ok_iff]
  by_cases hfew : n < 2 ^ 53
  · rw [h.exact hfew, Option.some.injEq, Int.ofNat_inj]
    constructor
    · rintro ⟨rfl, hrange⟩
      exact ⟨rfl, hrange⟩
    · rintro ⟨rfl, hrange⟩
      exact ⟨rfl, hrange⟩
  · have hmany := Nat.not_lt.1 hfew
    constructor
    · rintro ⟨hk, -, hle⟩
      have hlarge := Binary64.toInt?_atLeast (h.large hmany) hk
      omega
    · rintro ⟨-, -, hle⟩
      omega

def ofText (text : Bytes) (max : Nat) : Except (Json.Fault ⊕ Failure) Nat := do
  let v ← (Json.read text).mapError .inl
  let x ← (ofJson v).mapError .inr
  (check x max).mapError .inr

theorem ofText_eq_ok_iff {text : Bytes} :
    ofText text max = .ok k ↔ ∃ v x, Json.read text = .ok v ∧ ofJson v = .ok x ∧
      check x max = .ok k := by
  rw [ofText]
  cases hread : Json.read text with
  | error f => simp [Except.bind_eq_ok_iff]
  | ok v =>
    cases hjson : ofJson v with
    | error f => simp [Except.bind_eq_ok_iff, hjson]
    | ok x =>
      cases hcheck : check x max with
      | error f => simp [Except.bind_eq_ok_iff, hjson, hcheck]
      | ok k' => simp [Except.bind_eq_ok_iff, hjson, hcheck]

/-- The text is a number, written with the digits of `n`. -/
def NumberText (n : Nat) (text : Bytes) : Prop :=
  ∃ before after, Json.Blanks before ∧ Json.Blanks after ∧
    text = before ++ Bytes.ofText (toString n) ++ after

/-- The text is a string, in which the digits of `n` stand between white space. -/
def StringText (n : Nat) (text : Bytes) : Prop :=
  ∃ before after : String, (∀ c ∈ before.toList, isBlank c = true) ∧
    (∀ c ∈ after.toList, isBlank c = true) ∧
      Json.read text = .ok (.string (before ++ toString n ++ after))

variable {text : Bytes}

theorem stringText_render (hbefore : ∀ c ∈ before.toList, isBlank c = true)
    (hafter : ∀ c ∈ after.toList, isBlank c = true) (n : Nat) :
    StringText n (Bytes.ofText (Json.string (before ++ toString n ++ after)).render) :=
  ⟨before, after, hbefore, hafter, Json.read_render_string _⟩

theorem ofJson_of_stringText (h : StringText n text) :
    ∃ v, Json.read text = .ok v ∧ ofJson v = .ok (.ofQuotient false n 1) := by
  obtain ⟨before, after, hbefore, hafter, hread⟩ := h
  exact ⟨_, hread, ofJson_digits hbefore hafter n⟩

theorem ofJson_of_numberText (h : NumberText n text) (hn : n ≤ Json.maxWhole) :
    ∃ v, Json.read text = .ok v ∧ ofJson v = .ok (.ofQuotient false n 1) := by
  obtain ⟨before, after, hbefore, hafter, rfl⟩ := h
  refine ⟨_, Json.read_whole hbefore hafter hn, ?_⟩
  exact congrArg Except.ok (Binary64.ofInt_natCast n)

theorem standsFor_of_numberText (h : NumberText n text) {v : Json}
    (hread : Json.read text = .ok v) :
    ∃ x, ofJson v = .ok x ∧ x.isFinite = true ∧ x.StandsFor n := by
  obtain ⟨before, after, hbefore, hafter, rfl⟩ := h
  obtain ⟨k, rfl, hk⟩ := Json.standsFor_of_read hbefore hafter hread
  exact ⟨k.toBinary64, rfl, hk⟩

theorem read_eq_error_of_numberText (h : NumberText n text)
    (hlong : 328 < (Nat.toDigits 10 n).length) : ∃ fault, Json.read text = .error fault := by
  obtain ⟨before, after, hbefore, hafter, rfl⟩ := h
  exact Json.read_eq_error hbefore hafter hlong

theorem ofText_eq_ok_iff_of_standsFor (hmax : max < 2 ^ 53)
    (hreads : n ≤ max → ∃ v, Json.read text = .ok v)
    (hstands : ∀ v, Json.read text = .ok v → ∃ x, ofJson v = .ok x ∧ x.StandsFor n) :
    ofText text max = .ok k ↔ k = n ∧ 1 ≤ n ∧ n ≤ max := by
  rw [ofText_eq_ok_iff]
  constructor
  · rintro ⟨v, x, hread, hjson, hcheck⟩
    obtain ⟨y, hy, hstandsFor⟩ := hstands v hread
    rw [hy] at hjson
    obtain rfl := Except.ok.inj hjson
    exact (check_standsFor hstandsFor hmax).1 hcheck
  · intro hrange
    obtain ⟨v, hread⟩ := hreads hrange.2.2
    obtain ⟨x, hjson, hstandsFor⟩ := hstands v hread
    exact ⟨v, x, hread, hjson, (check_standsFor hstandsFor hmax).2 hrange⟩

/-- A whole number of any size, written as a number or in a string, is accepted if it is in the
range, and then as itself. Its digits are read as the nearest double. Those of a number that do not
fit 64 bits are read as a finite double or are no JSON, and those of a string may be read as
infinity. -/
theorem wholeNumbers_exact (n : Nat) (max : UInt32) :
    (∀ text, NumberText n text ∨ StringText n text → ∀ k,
      ofText text max.toNat = .ok k ↔ k = n ∧ 1 ≤ n ∧ n ≤ max.toNat) ∧
    (∀ text, NumberText n text →
      (n ≤ Json.maxWhole → ∃ v x, Json.read text = .ok v ∧ ofJson v = .ok x ∧ x.Nearest n) ∧
      (∀ v, Json.read text = .ok v → ∃ x, ofJson v = .ok x ∧ x.isFinite = true) ∧
      (328 < (Nat.toDigits 10 n).length → ∃ fault, Json.read text = .error fault)) ∧
    (∀ text, StringText n text → ∃ v x, Json.read text = .ok v ∧ ofJson v = .ok x ∧
      x.Nearest n ∧ (2 ^ 1024 ≤ n → x = .infinite false)) := by
  have hmax : max.toNat < 2 ^ 53 := Nat.lt_trans max.toNat_lt (by decide)
  refine ⟨?_, ?_, ?_⟩
  · rintro text (hnumber | hstring) k
    · refine ofText_eq_ok_iff_of_standsFor hmax (fun hle => ?_) (fun v hread => ?_)
      · have hbound : 2 ^ 53 ≤ Json.maxWhole := by decide +kernel
        obtain ⟨v, hread, -⟩ := ofJson_of_numberText hnumber (by omega)
        exact ⟨v, hread⟩
      · obtain ⟨x, hjson, -, hstands⟩ := standsFor_of_numberText hnumber hread
        exact ⟨x, hjson, hstands⟩
    · obtain ⟨v, hread, hjson⟩ := ofJson_of_stringText hstring
      refine ofText_eq_ok_iff_of_standsFor hmax (fun _ => ⟨v, hread⟩) (fun w hw => ?_)
      rw [hread] at hw
      obtain rfl := Except.ok.inj hw
      exact ⟨_, hjson, Binary64.ofQuotient_standsFor n⟩
  · intro text hnumber
    refine ⟨fun hfits => ?_, fun v hread => ?_, read_eq_error_of_numberText hnumber⟩
    · obtain ⟨v, hread, hjson⟩ := ofJson_of_numberText hnumber hfits
      exact ⟨v, _, hread, hjson, Binary64.ofQuotient_one_nearest n⟩
    · obtain ⟨x, hjson, hfinite, -⟩ := standsFor_of_numberText hnumber hread
      exact ⟨x, hjson, hfinite⟩
  · intro text hstring
    obtain ⟨v, hread, hjson⟩ := ofJson_of_stringText hstring
    exact ⟨v, _, hread, hjson, Binary64.ofQuotient_one_nearest n, fun hlarge =>
      Binary64.ofQuotient_infinite Nat.one_pos (le_refl 1024)
        ((Nat.one_mul _).trans_le hlarge)⟩

/-- The greatest capacity that there may be is accepted in both forms, and zero in neither. Of a
number with 332 digits one form is no JSON, and the other is infinite. -/
theorem wholeNumbers_exact_limits :
    let numeral (n : Nat) := Bytes.ofText (toString n)
    let quoted (n : Nat) := Bytes.ofText (Json.string (" " ++ toString n ++ "\n")).render
    (∀ text ∈ [numeral 4294967295, quoted 4294967295],
      ofText text 4294967295 = .ok 4294967295) ∧
    (∀ text ∈ [numeral 0, quoted 0], ∀ k, ofText text 4294967295 ≠ .ok k) ∧
    (∃ fault, Json.read (numeral (twoPow 1100)) = .error fault) ∧
    ∃ v, Json.read (quoted (twoPow 1100)) = .ok v ∧ ofJson v = .ok (.infinite false) := by
  intro numeral quoted
  have hnumeral (n : Nat) : NumberText n (numeral n) :=
    ⟨[], [], fun _ h => absurd h List.not_mem_nil, fun _ h => absurd h List.not_mem_nil,
      (List.append_nil _).symm⟩
  have hspace : ∀ c ∈ " ".toList, isBlank c = true := List.forall_mem_singleton.2 rfl
  have hline : ∀ c ∈ "\n".toList, isBlank c = true := List.forall_mem_singleton.2 rfl
  have hquoted (n : Nat) : StringText n (quoted n) := stringText_render hspace hline n
  have hforms (n : Nat) : ∀ text ∈ [numeral n, quoted n],
      NumberText n text ∨ StringText n text := by
    rw [List.forall_mem_cons, List.forall_mem_singleton]
    exact ⟨.inl (hnumeral n), .inr (hquoted n)⟩
  have hlong : 328 < (Nat.toDigits 10 (twoPow 1100)).length := by
    rw [← Nat.not_le, Nat.length_toDigits_le_iff (by decide) (by decide)]
    decide +kernel
  have hlarge : 2 ^ 1024 ≤ twoPow 1100 := by decide +kernel
  refine ⟨fun text htext => ?_, fun text htext k hk => ?_, ?_, ?_⟩
  · exact ((wholeNumbers_exact 4294967295 4294967295).1 text (hforms _ text htext) _).2
      ⟨rfl, by decide, by decide⟩
  · obtain ⟨-, hpositive, -⟩ :=
      ((wholeNumbers_exact 0 4294967295).1 text (hforms 0 text htext) k).1 hk
    exact absurd hpositive (by decide)
  · exact ((wholeNumbers_exact (twoPow 1100) 1).2.1 _ (hnumeral _)).2.2 hlong
  · obtain ⟨v, x, hread, hjson, -, hinfinite⟩ :=
      (wholeNumbers_exact (twoPow 1100) 1).2.2 _ (hquoted (twoPow 1100))
    rw [hinfinite hlarge] at hjson
    exact ⟨v, hread, hjson⟩

end Capacity

end CoordinatorGateway
