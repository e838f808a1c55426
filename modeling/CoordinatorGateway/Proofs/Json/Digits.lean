import CoordinatorGateway.Json.Reader
import CoordinatorGateway.Proofs.Number.Rounding
import CoordinatorGateway.Proofs.Text.Utf8
import Mathlib.Data.List.TakeWhile

namespace CoordinatorGateway

theorem Char.isDigit_iff {c : Char} : c.isDigit = true ↔ 48 ≤ c.toNat ∧ c.toNat ≤ 57 := by
  rw [Char.isDigit, Bool.and_eq_true, decide_eq_true_eq, decide_eq_true_eq, ge_iff_le,
    UInt32.le_iff_toNat_le, UInt32.le_iff_toNat_le]
  rfl

namespace Json

def digitBytes (ds : List Char) : Bytes := ds.map Char.toUInt8

/-- What comes here does not belong to the digits before it, and makes no fraction or power of
them. -/
def EndsNumber (rest : Bytes) : Prop :=
  ∀ b ∈ rest.head?, isDigitByte b = false ∧ b ≠ 46 ∧ startsExponent rest = false

variable {ds : List Char} {c : Char} {rest : Bytes}

theorem isDigitByte_iff {b : UInt8} : isDigitByte b = true ↔ 48 ≤ b.toNat ∧ b.toNat ≤ 57 := by
  rw [isDigitByte, Bool.and_eq_true, decide_eq_true_eq, decide_eq_true_eq, UInt8.le_iff_toNat_le,
    UInt8.le_iff_toNat_le]
  rfl

theorem toNat_digitByte (h : c.isDigit = true) : c.toUInt8.toNat = c.toNat := by
  rw [Char.toUInt8, UInt32.toNat_toUInt8]
  exact Nat.mod_eq_of_lt (Nat.lt_of_le_of_lt (Char.isDigit_iff.1 h).2 (by decide))

theorem isDigitByte_digitByte (h : c.isDigit = true) : isDigitByte c.toUInt8 = true := by
  rw [isDigitByte_iff, toNat_digitByte h]
  exact Char.isDigit_iff.1 h

theorem isDigitByte_of_mem (h : ∀ d ∈ ds, d.isDigit = true) : ∀ b ∈ digitBytes ds,
    isDigitByte b = true := by
  intro b hb
  obtain ⟨d, hd, rfl⟩ := List.mem_map.1 hb
  exact isDigitByte_digitByte (h d hd)

theorem skipDigits_append (hds : ∀ d ∈ ds, d.isDigit = true) (h : EndsNumber rest) :
    skipDigits (digitBytes ds ++ rest) = rest := by
  rw [skipDigits, List.dropWhile_append_of_pos (isDigitByte_of_mem hds)]
  cases rest with
  | nil => rfl
  | cons b rest => exact List.dropWhile_cons_of_neg (Bool.eq_false_iff.1 (h b rfl).1)

theorem takeWhile_append (hds : ∀ d ∈ ds, d.isDigit = true) (h : EndsNumber rest) :
    (digitBytes ds ++ rest).takeWhile isDigitByte = digitBytes ds := by
  rw [List.takeWhile_append_of_pos (isDigitByte_of_mem hds)]
  cases rest with
  | nil => exact List.append_nil _
  | cons b rest =>
    rw [List.takeWhile_cons_of_neg (Bool.eq_false_iff.1 (h b rfl).1), List.append_nil]

theorem afterWhole_of_ends (h : EndsNumber rest) (start : Nat) :
    afterWhole true start rest = .ok (.whole start, rest) := by
  cases rest with
  | nil => rfl
  | cons b rest =>
    obtain ⟨-, hpoint, hexponent⟩ := h b rfl
    rw [afterWhole]
    · rw [hexponent]
      rfl
    · exact fun _ hcons => hpoint (List.cons.inj hcons).1

theorem afterLongWhole_of_ends (h : EndsNumber rest) (kept power : Nat) :
    afterLongWhole true kept power rest = realOfParts true kept power rest := by
  cases rest with
  | nil => rfl
  | cons b rest =>
    obtain ⟨-, hpoint, hexponent⟩ := h b rfl
    rw [afterLongWhole]
    · rw [realEnd, hexponent]
      rfl
    · exact fun _ hcons => hpoint (List.cons.inj hcons).1

theorem wholeDigits_of_ends (h : EndsNumber rest) (start : Nat) :
    wholeDigits true start rest = .ok (.whole start, rest) := by
  cases rest with
  | nil => rfl
  | cons b rest =>
    rw [wholeDigits, if_neg (Bool.eq_false_iff.1 (h b rfl).1)]
    exact afterWhole_of_ends h start

theorem le_ofDigitChars (ds : List Char) (n : Nat) : n ≤ Nat.ofDigitChars 10 ds n := by
  rw [Nat.ofDigitChars_eq_ofDigitChars_zero]
  exact Nat.le_add_right_of_le (Nat.le_mul_of_pos_left n (Nat.pow_pos (by decide)))

theorem ofDigitChars_lt (hds : ∀ d ∈ ds, d.isDigit = true) (n : Nat) :
    Nat.ofDigitChars 10 ds n < (n + 1) * 10 ^ ds.length := by
  induction ds generalizing n with
  | nil => exact Nat.lt_succ_self n |>.trans_eq (Nat.mul_one _).symm
  | cons d ds ih =>
    rw [List.forall_mem_cons] at hds
    have hdigit : 10 * n + (d.toNat - '0'.toNat) + 1 ≤ (n + 1) * 10 := by
      have hle := (Char.isDigit_iff.1 hds.1).2
      have hzero : '0'.toNat = 48 := rfl
      omega
    rw [Nat.ofDigitChars_cons, List.length_cons, Nat.pow_succ']
    calc Nat.ofDigitChars 10 ds (10 * n + (d.toNat - '0'.toNat))
        < (10 * n + (d.toNat - '0'.toNat) + 1) * 10 ^ ds.length := ih hds.2 _
      _ ≤ (n + 1) * 10 * 10 ^ ds.length := Nat.mul_le_mul_right _ hdigit
      _ = (n + 1) * (10 * 10 ^ ds.length) := Nat.mul_assoc _ _ _

/-- The number does not fit 64 bits. Of its digits those are kept that do, and `power` of them
are not. -/
structure CutOff (n kept power : Nat) : Prop where
  fits : kept ≤ maxWhole
  full : maxWhole < kept * 10 + 10
  lt : n < (kept + 1) * 10 ^ power

/-- What becomes of digits that continue `start`: the number they spell if it fits, and else what
they spell up to where it no longer would, times a power of ten. -/
theorem wholeDigits_digitBytes (hds : ∀ d ∈ ds, d.isDigit = true) (hrest : EndsNumber rest)
    (start : Nat) :
    (Nat.ofDigitChars 10 ds start ≤ maxWhole → wholeDigits true start (digitBytes ds ++ rest) =
      .ok (.whole (Nat.ofDigitChars 10 ds start : Nat), rest)) ∧
    (start ≤ maxWhole → maxWhole < Nat.ofDigitChars 10 ds start → ∃ kept power : Nat,
      CutOff (Nat.ofDigitChars 10 ds start) kept power ∧
        wholeDigits true start (digitBytes ds ++ rest) = realOfParts true kept power rest) := by
  induction ds generalizing start with
  | nil =>
    exact ⟨fun _ => wholeDigits_of_ends hrest start,
      fun hfits hlarge => absurd hlarge (Nat.not_lt.2 hfits)⟩
  | cons d ds ih =>
    have hbound := ofDigitChars_lt hds start
    have hskip := skipDigits_append hds hrest
    have hmore := takeWhile_append hds hrest
    rw [List.forall_mem_cons] at hds
    have hdigit := isDigitByte_digitByte hds.1
    have hnext : start * 10 + (d.toUInt8.toNat - 48) = 10 * start + (d.toNat - '0'.toNat) := by
      rw [toNat_digitByte hds.1, Nat.mul_comm]
      rfl
    have hvalue := le_ofDigitChars ds (10 * start + (d.toNat - '0'.toNat))
    rw [Nat.ofDigitChars_cons] at hbound ⊢
    by_cases hlarge : maxWhole < 10 * start + (d.toNat - '0'.toNat)
    · refine ⟨fun hfits => absurd hlarge (Nat.not_lt.2 (hvalue.trans hfits)), fun hstart _ => ?_⟩
      have hfull : maxWhole < start * 10 + 10 := by
        have hle := (Char.isDigit_iff.1 hds.1).2
        have hzero : '0'.toNat = 48 := rfl
        omega
      refine ⟨start, (d :: ds).length, ⟨hstart, hfull, hbound⟩, ?_⟩
      rw [digitBytes, List.map_cons, List.cons_append, wholeDigits, if_pos hdigit, hnext]
      dsimp only
      rw [if_pos hlarge]
      change afterLongWhole true start
        ((digitBytes (d :: ds) ++ rest).takeWhile isDigitByte).length
        (skipDigits (digitBytes (d :: ds) ++ rest)) = _
      rw [hmore, hskip, digitBytes, List.length_map]
      exact afterLongWhole_of_ends hrest start _
    · have hstep : wholeDigits true start (digitBytes (d :: ds) ++ rest) =
          wholeDigits true (10 * start + (d.toNat - '0'.toNat)) (digitBytes ds ++ rest) := by
        rw [digitBytes, List.map_cons, List.cons_append, wholeDigits, if_pos hdigit, hnext]
        exact if_neg hlarge
      obtain ⟨hfits, hlong⟩ := ih hds.2 (10 * start + (d.toNat - '0'.toNat))
      rw [hstep]
      exact ⟨hfits, fun _ => hlong (Nat.not_lt.1 hlarge)⟩

theorem isDigit_toDigits (n : Nat) : ∀ d ∈ Nat.toDigits 10 n, d.isDigit = true :=
  fun _ hd => Nat.isDigit_of_mem_toDigits (by decide) (by decide) hd

theorem head?_toDigits {n : Nat} (hn : 0 < n) : (Nat.toDigits 10 n).head? ≠ some '0' := by
  induction n using Nat.strongRecOn with
  | ind n ih =>
    by_cases hsmall : n < 10
    · rw [Nat.toDigits_of_lt_base hsmall]
      have hall : ∀ n < 10, 0 < n → [n.digitChar].head? ≠ some '0' := by decide
      exact hall n hsmall hn
    · rw [Nat.toDigits_of_base_le (by decide) (Nat.not_lt.1 hsmall),
        List.head?_append_of_ne_nil _ Nat.toDigits_ne_nil]
      exact ih (n / 10) (by omega) (by omega)

theorem readNumber_toDigits (hrest : EndsNumber rest) (n : Nat) :
    (n ≤ maxWhole →
      readNumber true (digitBytes (Nat.toDigits 10 n) ++ rest) = .ok (.whole n, rest)) ∧
    (maxWhole < n → ∃ kept power : Nat, CutOff n kept power ∧
      readNumber true (digitBytes (Nat.toDigits 10 n) ++ rest) =
        realOfParts true kept power rest) := by
  by_cases hn : n = 0
  · subst hn
    refine ⟨fun _ => ?_, fun h => absurd h (Nat.not_lt_zero _)⟩
    have hnodigit : startsWithDigit rest = false := by
      cases rest with
      | nil => rfl
      | cons b rest => exact (hrest b rfl).1
    change (if startsWithDigit rest = true then _ else afterWhole true 0 rest) = _
    rw [hnodigit]
    exact afterWhole_of_ends hrest 0
  · have hvalue := Nat.ofDigitChars_ten_toDigits (n := n)
    have hhead := head?_toDigits (Nat.pos_of_ne_zero hn)
    have hdigits := isDigit_toDigits n
    cases hds : Nat.toDigits 10 n with
    | nil => exact absurd hds Nat.toDigits_ne_nil
    | cons d ds =>
      rw [hds] at hvalue hhead hdigits
      rw [List.forall_mem_cons] at hdigits
      have hcode := toNat_digitByte hdigits.1
      have hzero : d.toUInt8 ≠ 48 := by
        intro h
        rw [h] at hcode
        exact hhead (congrArg some (Char.toNat_inj.1 hcode.symm))
      have hstart : d.toUInt8.toNat - 48 = 10 * 0 + (d.toNat - '0'.toNat) := by
        rw [hcode]
        exact (Nat.zero_add _).symm
      rw [Nat.ofDigitChars_cons] at hvalue
      have hfits : 10 * 0 + (d.toNat - '0'.toNat) ≤ maxWhole := by
        have hle := (Char.isDigit_iff.1 hdigits.1).2
        have hbound : 57 ≤ maxWhole := by decide +kernel
        omega
      have hfirst : readNumber true (digitBytes (d :: ds) ++ rest) =
          wholeDigits true (10 * 0 + (d.toNat - '0'.toNat)) (digitBytes ds ++ rest) := by
        rw [digitBytes, List.map_cons, List.cons_append, readNumber, if_neg hzero,
          if_pos (isDigitByte_digitByte hdigits.1), hstart]
        rfl
      obtain ⟨hwhole, hlong⟩ :=
        wholeDigits_digitBytes hdigits.2 hrest (10 * 0 + (d.toNat - '0'.toNat))
      rw [hvalue] at hwhole hlong
      rw [hfirst]
      exact ⟨hwhole, hlong hfits⟩

theorem toList_toString (n : Nat) : (toString n).toList = Nat.toDigits 10 n := by
  rw [Nat.toString_eq_ofList_toDigits, String.toList_ofList]

theorem ofText_toString (n : Nat) : Bytes.ofText (toString n) = digitBytes (Nat.toDigits 10 n) := by
  rw [Bytes.ofText_of_ascii, toList_toString, digitBytes]
  rw [toList_toString]
  exact fun d hd => Nat.lt_of_le_of_lt (Char.isDigit_iff.1 (isDigit_toDigits n d hd)).2 (by decide)

def Blanks (bs : Bytes) : Prop := ∀ b ∈ bs, isBlankByte b = true

theorem isBlankByte_eq_false {b : UInt8} (h : isDigitByte b = true) : isBlankByte b = false := by
  rw [isDigitByte_iff] at h
  have hne {c : UInt8} (hc : c.toNat < 48) : b ≠ c := by
    rintro rfl
    omega
  simp only [isBlankByte, Bool.or_eq_false_iff, beq_eq_false_iff_ne]
  exact ⟨⟨⟨hne (by decide), hne (by decide)⟩, hne (by decide)⟩, hne (by decide)⟩

theorem readValue_of_digit {before : Bytes} (hbefore : Blanks before) {b : UInt8}
    (hb : isDigitByte b = true) (fuel depth : Nat) (rest : Bytes) :
    readValue (fuel + 1) depth (before ++ b :: rest) =
      (readNumber true (b :: rest)).map fun (n, rest) => (.number n, rest) := by
  have hskip : skipBlanks (before ++ b :: rest) = b :: rest := by
    rw [skipBlanks, List.dropWhile_append_of_pos hbefore]
    exact List.dropWhile_cons_of_neg (Bool.eq_false_iff.1 (isBlankByte_eq_false hb))
  have hcode := isDigitByte_iff.1 hb
  have hne {c : UInt8} (hc : c.toNat < 48 ∨ 57 < c.toNat) : b ≠ c := by
    rintro rfl
    omega
  rw [readValue, hskip]
  dsimp only
  rw [if_neg (hne (by decide)), if_neg (hne (by decide)), if_neg (hne (by decide)),
    if_neg (hne (by decide)), if_pos hb]
  cases readNumber true (b :: rest) with
  | error f => rfl
  | ok r => rfl

theorem readValue_toString {before : Bytes} (hbefore : Blanks before) (hrest : EndsNumber rest)
    (fuel depth n : Nat) :
    (n ≤ maxWhole → readValue (fuel + 1) depth (before ++ Bytes.ofText (toString n) ++ rest) =
      .ok (.number (.whole n), rest)) ∧
    (maxWhole < n → ∃ kept power : Nat, CutOff n kept power ∧
      readValue (fuel + 1) depth (before ++ Bytes.ofText (toString n) ++ rest) =
        (scale rest 4 (.ofInt kept) power).map fun x => (.number (.real x), rest)) := by
  have hvalue : readValue (fuel + 1) depth (before ++ Bytes.ofText (toString n) ++ rest) =
      (readNumber true (digitBytes (Nat.toDigits 10 n) ++ rest)).map fun (n, rest) =>
        (.number n, rest) := by
    have hdigits := isDigit_toDigits n
    rw [ofText_toString]
    cases hds : Nat.toDigits 10 n with
    | nil => exact absurd hds Nat.toDigits_ne_nil
    | cons d ds =>
      rw [hds, List.forall_mem_cons] at hdigits
      rw [digitBytes, List.map_cons, List.append_assoc, List.cons_append,
        readValue_of_digit hbefore (isDigitByte_digitByte hdigits.1)]
  obtain ⟨hwhole, hlong⟩ := readNumber_toDigits hrest n
  rw [hvalue]
  refine ⟨fun hfits => ?_, fun hlarge => ?_⟩
  · rw [hwhole hfits]
    rfl
  · obtain ⟨kept, power, hcut, hnumber⟩ := hlong hlarge
    refine ⟨kept, power, hcut, ?_⟩
    rw [hnumber, realOfParts]
    cases scale rest 4 (.ofInt kept) power with
    | error f => rfl
    | ok x => rfl

theorem CutOff.atLeast {n kept power : Nat} (h : CutOff n kept power) :
    (Binary64.ofInt kept).AtLeast (2 ^ 53) := by
  have hbound : 10 * 2 ^ 53 + 10 ≤ maxWhole := by decide +kernel
  have hkept : 1 * 2 ^ 53 ≤ kept := by
    have hfull := h.full
    omega
  rw [Binary64.ofInt_natCast]
  exact Binary64.ofQuotient_atLeast Nat.one_pos hkept

theorem powerOfTen_atLeast (k : Nat) : (powerOfTen k).AtLeast (2 ^ 0) := by
  rw [powerOfTen, Binary64.ofDecimal, if_neg (by omega)]
  split
  · trivial
  · rw [Int.toNat_natCast, Int.toNat_neg_natCast, Nat.one_mul]
    exact Binary64.ofQuotient_atLeast Nat.one_pos (Nat.pow_pos (by decide))

theorem scale_atLeast {x y : Binary64} {j power : Nat} (hx : x.AtLeast (2 ^ j))
    (h : scale rest 4 x power = .ok y) :
    power ≤ 308 ∧ y.isFinite = true ∧ y.AtLeast (2 ^ j) := by
  rw [scale, Int.natAbs_natCast, if_pos (Int.natCast_nonneg power)] at h
  split at h
  · next hpower =>
    dsimp only at h
    split at h
    · next hfinite =>
      obtain rfl := Except.ok.inj h
      have hscaled := Binary64.mul_atLeast hx (powerOfTen_atLeast power)
      rw [Nat.add_zero] at hscaled
      exact ⟨hpower, hfinite, hscaled⟩
    · cases h
  · rw [if_neg (by rw [hx.isZero_eq_false (by positivity)]; decide),
      if_pos (Int.natCast_nonneg power)] at h
    cases h

/-- What the digits of a number are read as, if they are read at all: a finite double that stands
for it. -/
theorem standsFor_of_readValue {before : Bytes} (hbefore : Blanks before) (hrest : EndsNumber rest)
    {fuel depth n : Nat} {v : Json} {rest' : Bytes}
    (h : readValue (fuel + 1) depth (before ++ Bytes.ofText (toString n) ++ rest) =
      .ok (v, rest')) :
    rest' = rest ∧ ∃ k : JsonNumber, v = .number k ∧ k.toBinary64.isFinite = true ∧
      k.toBinary64.StandsFor n := by
  obtain ⟨hwhole, hlong⟩ := readValue_toString hbefore hrest fuel depth n
  by_cases hfits : n ≤ maxWhole
  · rw [hwhole hfits] at h
    obtain ⟨rfl, rfl⟩ := Prod.mk.inj (Except.ok.inj h)
    refine ⟨rfl, .whole n, rfl, ?_⟩
    rw [JsonNumber.toBinary64, Binary64.ofInt_natCast]
    have hbound : maxWhole ≤ 1 * 2 ^ 64 := by decide +kernel
    have hle : (n : ℚ) ≤ (1 : Nat) * 2 ^ (64 : Int) := by exact_mod_cast hfits.trans hbound
    exact ⟨(Binary64.ofQuotient_one_nearest n).isFinite (Nat.cast_nonneg n)
      ⟨by decide, by decide, by decide⟩ hle, Binary64.ofQuotient_standsFor n⟩
  · rw [Nat.not_le] at hfits
    obtain ⟨kept, power, hcut, hread⟩ := hlong hfits
    rw [hread] at h
    cases hscale : scale rest 4 (.ofInt kept) power with
    | error f =>
      rw [hscale] at h
      cases h
    | ok x =>
      rw [hscale] at h
      obtain ⟨rfl, rfl⟩ := Prod.mk.inj (Except.ok.inj h)
      have hbound : 2 ^ 53 ≤ maxWhole := by decide +kernel
      have hmany := hbound.trans (Nat.le_of_lt hfits)
      obtain ⟨-, hfinite, hleast⟩ := scale_atLeast hcut.atLeast hscale
      exact ⟨rfl, .real x, rfl, hfinite, fun hfew => absurd hfew (Nat.not_lt.2 hmany),
        fun _ => hleast⟩

theorem readValue_eq_error {before : Bytes} (hbefore : Blanks before) (hrest : EndsNumber rest)
    {n : Nat} (h : 328 < (Nat.toDigits 10 n).length) (fuel depth : Nat) :
    ∃ fault, readValue (fuel + 1) depth (before ++ Bytes.ofText (toString n) ++ rest) =
      .error fault := by
  have hlarge : maxWhole < n := by
    refine Nat.not_le.1 fun hfits => ?_
    have hbound : maxWhole < 10 ^ 20 := by decide +kernel
    have hshort := (Nat.length_toDigits_le_iff (by decide) (by decide)).2
      (Nat.lt_of_le_of_lt hfits hbound)
    omega
  obtain ⟨kept, power, hcut, hread⟩ := (readValue_toString hbefore hrest fuel depth n).2 hlarge
  cases hscale : scale rest 4 (.ofInt kept) power with
  | error f =>
    rw [hread, hscale]
    exact ⟨f, rfl⟩
  | ok x =>
    obtain ⟨hpower, -⟩ := scale_atLeast hcut.atLeast hscale
    have hbelow : n < 10 ^ (20 + power) := calc
      n < (kept + 1) * 10 ^ power := hcut.lt
      _ ≤ 10 ^ 20 * 10 ^ power := by
        have hbound : maxWhole + 1 ≤ 10 ^ 20 := by decide +kernel
        exact Nat.mul_le_mul_right _ ((Nat.succ_le_succ hcut.fits).trans hbound)
      _ = 10 ^ (20 + power) := (Nat.pow_add 10 20 power).symm
    have hshort := (Nat.length_toDigits_le_iff (by decide) (by omega)).2 hbelow
    omega

theorem endsNumber_of_blanks (h : Blanks rest) : EndsNumber rest := by
  intro b hb
  cases rest with
  | nil => cases hb
  | cons c rest =>
    obtain rfl := Option.some.inj hb
    have hblank := h c List.mem_cons_self
    rw [isBlankByte, Bool.or_eq_true, Bool.or_eq_true, Bool.or_eq_true, beq_iff_eq, beq_iff_eq,
      beq_iff_eq, beq_iff_eq] at hblank
    rcases hblank with ((rfl | rfl) | rfl) | rfl
    all_goals exact ⟨rfl, by decide, rfl⟩

theorem finish_blanks (h : Blanks rest) : finish rest = .ok () := by
  rw [finish, skipBlanks, List.dropWhile_eq_nil_iff.2 h]

variable {before after : Bytes} {n : Nat} {v : Json}

theorem read_whole (hbefore : Blanks before) (hafter : Blanks after) (hn : n ≤ maxWhole) :
    read (before ++ Bytes.ofText (toString n) ++ after) = .ok (.number (.whole n)) := by
  have hvalue := readValue_toString hbefore (endsNumber_of_blanks hafter)
  rw [read, stepBound, (hvalue _ maxDepth n).1 hn]
  change (finish after >>= fun _ => _) = _
  rw [finish_blanks hafter]
  rfl

theorem standsFor_of_read (hbefore : Blanks before) (hafter : Blanks after)
    (h : read (before ++ Bytes.ofText (toString n) ++ after) = .ok v) :
    ∃ k : JsonNumber, v = .number k ∧ k.toBinary64.isFinite = true ∧
      k.toBinary64.StandsFor n := by
  rw [read, stepBound] at h
  cases hvalue : readValue (2 * (before ++ Bytes.ofText (toString n) ++ after).length + 1 + 1)
      maxDepth (before ++ Bytes.ofText (toString n) ++ after) with
  | error f =>
    rw [hvalue] at h
    cases h
  | ok r =>
    obtain ⟨hrest, k, hk⟩ :=
      standsFor_of_readValue hbefore (endsNumber_of_blanks hafter) hvalue
    rw [hvalue] at h
    change (finish r.2 >>= fun _ => .ok r.1) = .ok v at h
    rw [hrest, finish_blanks hafter] at h
    obtain rfl := Except.ok.inj h
    exact ⟨k, hk⟩

theorem read_eq_error (hbefore : Blanks before) (hafter : Blanks after)
    (h : 328 < (Nat.toDigits 10 n).length) :
    ∃ fault, read (before ++ Bytes.ofText (toString n) ++ after) = .error fault := by
  obtain ⟨fault, hvalue⟩ := readValue_eq_error hbefore (endsNumber_of_blanks hafter) h
    (2 * (before ++ Bytes.ofText (toString n) ++ after).length + 1) maxDepth
  refine ⟨fault, ?_⟩
  rw [read, stepBound, hvalue]
  rfl

end Json

end CoordinatorGateway
