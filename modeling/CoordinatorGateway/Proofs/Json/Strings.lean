import CoordinatorGateway.Json.Printer
import CoordinatorGateway.Json.Reader
import CoordinatorGateway.Proofs.Text.Utf8

namespace CoordinatorGateway

namespace Bytes

theorem le_of_mem_utf8EncodeChar {c : Char} (h : 128 ≤ c.toNat) {b : UInt8}
    (hb : b ∈ String.utf8EncodeChar c) : 128 ≤ b.toNat := by
  have hfirst : ¬ c.val.toNat ≤ 0x7f := Nat.not_le.2 h
  rw [String.utf8EncodeChar, if_neg hfirst] at hb
  generalize c.val.toNat = v at hb
  split at hb
  · simp only [List.mem_cons, List.not_mem_nil, or_false] at hb
    rcases hb with rfl | rfl
    all_goals rw [UInt8.toNat_ofNat']; omega
  · split at hb
    · simp only [List.mem_cons, List.not_mem_nil, or_false] at hb
      rcases hb with rfl | rfl | rfl
      all_goals rw [UInt8.toNat_ofNat']; omega
    · simp only [List.mem_cons, List.not_mem_nil, or_false] at hb
      rcases hb with rfl | rfl | rfl | rfl
      all_goals rw [UInt8.toNat_ofNat']; omega

end Bytes

namespace Json

def bytesOf (cs : List Char) : Bytes := cs.flatMap String.utf8EncodeChar

theorem bytesOf_append (cs ds : List Char) : bytesOf (cs ++ ds) = bytesOf cs ++ bytesOf ds :=
  List.flatMap_append

theorem ofText_ofList (cs : List Char) : Bytes.ofText (String.ofList cs) = bytesOf cs := by
  rw [Bytes.ofText_eq_flatMap, String.toList_ofList]
  rfl

def IsPlain (b : UInt8) : Prop := b ≠ 34 ∧ b ≠ 92 ∧ ¬ b < 32

section

variable (acc rest : Bytes)

theorem stringBody_quote : stringBody acc (34 :: rest) = .ok (acc.reverse, rest) := by
  rw [stringBody.eq_def]
  rfl

theorem stringBody_cons {b : UInt8} (h : IsPlain b) :
    stringBody acc (b :: rest) = stringBody (b :: acc) rest := by
  rw [stringBody.eq_def]
  dsimp only
  rw [if_neg h.1, if_neg h.2.1, if_neg h.2.2]

theorem stringBody_escape {e x : UInt8} (he : e ≠ 117) (h : simpleEscape? e = some x) :
    stringBody acc (92 :: e :: rest) = stringBody (x :: acc) rest := by
  rw [stringBody.eq_def]
  dsimp only
  rw [if_neg (by decide), if_pos rfl]
  split
  · next hnil => cases hnil
  · next hcode => exact absurd (List.cons.inj hcode).1 he
  · next hcode => exact absurd (List.cons.inj hcode).1 he
  · next hcode =>
    obtain ⟨rfl, rfl⟩ := List.cons.inj hcode
    rw [h]

theorem stringBody_unicode {h1 h2 h3 h4 : UInt8} {n : Nat} (h : hex4? h1 h2 h3 h4 = some n)
    (hlow : isLowSurrogate n = false) (hhigh : isHighSurrogate n = false) :
    stringBody acc (92 :: 117 :: h1 :: h2 :: h3 :: h4 :: rest) =
      stringBody ((codePointBytes n).reverse ++ acc) rest := by
  rw [stringBody.eq_def]
  dsimp only
  rw [if_neg (by decide), if_pos rfl]
  simp only [h, hlow, hhigh, Bool.false_eq_true, if_false, Bool.not_false, if_true]

theorem stringBody_plain {bs : Bytes} (h : ∀ b ∈ bs, IsPlain b) :
    stringBody acc (bs ++ rest) = stringBody (bs.reverse ++ acc) rest := by
  induction bs generalizing acc with
  | nil => rfl
  | cons b bs ih =>
    rw [List.forall_mem_cons] at h
    rw [List.cons_append, stringBody_cons acc _ h.1, ih (b :: acc) h.2, List.reverse_cons,
      List.append_assoc]
    rfl

end

theorem isPlain_of_mem {c : Char} (hquote : c ≠ '"') (hescape : c ≠ '\\')
    (hcontrol : ¬ c.toNat < 32) {b : UInt8} (hb : b ∈ String.utf8EncodeChar c) : IsPlain b := by
  by_cases hascii : c.toNat < 128
  · rw [Bytes.utf8EncodeChar_of_lt hascii, List.mem_singleton] at hb
    have hcode : b.toNat = c.toNat := by
      rw [hb, Char.toUInt8, UInt32.toNat_toUInt8]
      exact Nat.mod_eq_of_lt (Nat.lt_trans hascii (by decide))
    refine ⟨fun h => hquote ?_, fun h => hescape ?_, fun h => hcontrol ?_⟩
    · rw [h] at hcode
      exact Char.toNat_inj.1 hcode.symm
    · rw [h] at hcode
      exact Char.toNat_inj.1 hcode.symm
    · rw [← hcode]
      exact UInt8.lt_iff_toNat_lt.1 h
  · have hlarge := Bytes.le_of_mem_utf8EncodeChar (Nat.not_lt.1 hascii) hb
    refine ⟨fun h => ?_, fun h => ?_, fun h => ?_⟩
    · rw [h] at hlarge
      exact absurd hlarge (by decide)
    · rw [h] at hlarge
      exact absurd hlarge (by decide)
    · have hsmall := UInt8.lt_iff_toNat_lt.1 h
      exact absurd hlarge (Nat.not_le.2 (Nat.lt_trans hsmall (by decide)))

theorem hex4?_hexDigit : ∀ n < 32,
    hex4? 48 48 (hexDigit (n / 16)).toUInt8 (hexDigit (n % 16)).toUInt8 = some n ∧
      bytesOf ['\\', 'u', '0', '0', hexDigit (n / 16), hexDigit (n % 16)] =
        [92, 117, 48, 48, (hexDigit (n / 16)).toUInt8, (hexDigit (n % 16)).toUInt8] := by
  decide +kernel

/-- A character that is written is read again, whatever comes after it. -/
theorem stringBody_escapeChar (c : Char) (acc rest : Bytes) :
    stringBody acc (bytesOf (escapeChar c) ++ rest) =
      stringBody ((String.utf8EncodeChar c).reverse ++ acc) rest := by
  by_cases hsimple : c ∈ ['"', '\\', '\x08', '\x0c', '\n', '\r', '\t']
  · simp only [List.mem_cons, List.not_mem_nil, or_false] at hsimple
    rcases hsimple with rfl | rfl | rfl | rfl | rfl | rfl | rfl
    all_goals exact stringBody_escape acc rest (by decide) rfl
  · simp only [List.mem_cons, List.not_mem_nil, or_false, not_or] at hsimple
    obtain ⟨hquote, hescape, hb, hf, hn, hr, ht⟩ := hsimple
    rw [escapeChar, if_neg hquote, if_neg hescape, if_neg hb, if_neg hf, if_neg hn, if_neg hr,
      if_neg ht]
    split
    · next hcontrol =>
      obtain ⟨hcode, hbytes⟩ := hex4?_hexDigit c.toNat hcontrol
      have hlow : isLowSurrogate c.toNat = false := by
        rw [isLowSurrogate, Bool.and_eq_false_iff, decide_eq_false_iff_not]
        exact .inl (by omega)
      have hhigh : isHighSurrogate c.toNat = false := by
        rw [isHighSurrogate, Bool.and_eq_false_iff, decide_eq_false_iff_not]
        exact .inl (by omega)
      have hread := stringBody_unicode acc rest hcode hlow hhigh
      rw [codePointBytes, Char.ofNat_toNat, Bytes.ofText_eq_flatMap, String.toList_singleton,
        List.flatMap_singleton] at hread
      rw [hbytes, ← hread]
      rfl
    · next hcontrol =>
      rw [bytesOf, List.flatMap_singleton]
      exact stringBody_plain acc rest fun b hmem => isPlain_of_mem hquote hescape hcontrol hmem

theorem stringBody_escaped (cs : List Char) (acc rest : Bytes) :
    stringBody acc (bytesOf (cs.flatMap escapeChar) ++ 34 :: rest) =
      .ok (acc.reverse ++ bytesOf cs, rest) := by
  induction cs generalizing acc with
  | nil => rw [List.flatMap_nil, bytesOf, List.flatMap_nil, List.nil_append, stringBody_quote,
      List.append_nil]
  | cons c cs ih =>
    rw [List.flatMap_cons, bytesOf_append, List.append_assoc, stringBody_escapeChar, ih,
      List.reverse_append, List.reverse_reverse, List.append_assoc]
    rfl

theorem readString_quote (s : String) (rest : Bytes) :
    readString (bytesOf (s.toList.flatMap escapeChar) ++ 34 :: rest) = .ok (s, rest) := by
  have htext : Bytes.text? (bytesOf s.toList) = some s := by
    rw [← ofText_ofList, String.ofList_toList, Bytes.text?_ofText]
  rw [readString, stringBody_escaped]
  dsimp only [bind, Except.bind, List.reverse_nil, List.nil_append]
  rw [htext]
  rfl

theorem read_render_string (s : String) :
    read (Bytes.ofText (Json.string s).render) = .ok (.string s) := by
  have hbytes : Bytes.ofText (Json.string s).render =
      34 :: (bytesOf (s.toList.flatMap escapeChar) ++ [34]) := by
    rw [render, write, quote, ofText_ofList]
    change bytesOf ['"'] ++ bytesOf (s.toList.flatMap escapeChar ++ ['"']) = _
    rw [bytesOf_append]
    rfl
  have hvalue (fuel depth : Nat) :
      readValue (fuel + 1) depth (34 :: (bytesOf (s.toList.flatMap escapeChar) ++ [34])) =
        .ok (.string s, []) := by
    rw [readValue]
    change (readString _ >>= fun _ => _) = _
    rw [readString_quote]
    rfl
  rw [read, hbytes, stepBound, hvalue]
  rfl

end Json

end CoordinatorGateway
