import Mathlib.Algebra.Group.Nat.Defs
import Mathlib.Data.List.Basic
import CoordinatorGateway.Coordinator.Messages
import CoordinatorGateway.Proofs.Text.Utf8

namespace CoordinatorGateway

theorem Varint.readUpTo_writeUpTo {room n : Nat} (h : n < 2 ^ (7 * room + 1)) (rest : Bytes) :
    readUpTo (room + 1) (writeUpTo (room + 1) n ++ rest) = some (n, rest) := by
  induction room generalizing n with
  | zero =>
    have hsmall : n < 128 := Nat.lt_trans h (by decide)
    have hn : n.toUInt8.toNat = n := by
      rw [Nat.toUInt8, UInt8.toNat_ofNat']
      omega
    rw [writeUpTo, if_pos hsmall, List.singleton_append, readUpTo, hn, if_pos hsmall,
      if_neg (by omega)]
  | succ room ih =>
    rw [writeUpTo]
    split
    · next hsmall =>
      have hn : n.toUInt8.toNat = n := by
        rw [Nat.toUInt8, UInt8.toNat_ofNat']
        omega
      rw [List.singleton_append, readUpTo, hn, if_pos hsmall, if_neg (by omega)]
    · next hlarge =>
      have hlow : (n % 128 + 128).toUInt8.toNat = n % 128 + 128 := by
        rw [Nat.toUInt8, UInt8.toNat_ofNat']
        omega
      have hhigh : n / 128 < 2 ^ (7 * room + 1) := by
        rw [Nat.div_lt_iff_lt_mul (by decide)]
        have hpow : 2 ^ (7 * (room + 1) + 1) = 2 ^ (7 * room + 1) * 128 := by
          rw [show 7 * (room + 1) + 1 = 7 * room + 1 + 7 by omega, Nat.pow_add]
        omega
      rw [List.cons_append, readUpTo, hlow, if_neg (by omega), ih hhigh, Option.map_some,
        Nat.add_sub_cancel]
      dsimp only
      rw [Nat.mod_add_div]

theorem Varint.read_write {n : Nat} (h : n < 2 ^ 64) (rest : Bytes) :
    read (write n ++ rest) = some (n, rest) :=
  readUpTo_writeUpTo h rest

theorem Varint.write_ne_nil (n : Nat) : write n ≠ [] := by
  rw [write, maxBytes, writeUpTo]
  split
  · exact List.cons_ne_nil _ _
  · exact List.cons_ne_nil _ _

namespace Wire

theorem readVarint_write {n : Nat} (h : n < 2 ^ 64) (rest : Bytes) :
    readVarint (Varint.write n ++ rest) = .ok (n, rest) := by
  rw [readVarint, Varint.read_write h]

theorem readKey_writeKey {tag : Nat} (htag : 0 < tag) (hmax : 8 * tag + 7 ≤ maxKey)
    (wireType : WireType) (rest : Bytes) :
    readKey (writeKey tag wireType ++ rest) = .ok ((tag, wireType), rest) := by
  have hnumber : wireType.number ≤ 7 := by
    cases wireType <;> decide
  have htype : WireType.ofNumber? wireType.number = some wireType := by
    cases wireType <;> rfl
  have hlow : (8 * tag + wireType.number) % 8 = wireType.number := by omega
  have hhigh : (8 * tag + wireType.number) / 8 = tag := by omega
  have hkey : 8 * tag + wireType.number < 2 ^ 64 :=
    Nat.lt_of_le_of_lt (Nat.le_trans (Nat.add_le_add_left hnumber _) hmax) (by decide)
  have hfits : ¬ maxKey < 8 * tag + wireType.number :=
    Nat.not_lt.2 (Nat.le_trans (Nat.add_le_add_left hnumber _) hmax)
  rw [readKey, writeKey, readVarint_write hkey]
  change (if maxKey < 8 * tag + wireType.number then _ else _) = _
  rw [if_neg hfits, hlow, htype, hhigh]
  change (if tag = 0 then _ else _) = _
  rw [if_neg (Nat.ne_of_gt htag)]
  rfl

theorem take_append (bytes rest : Bytes) :
    take bytes.length (bytes ++ rest) = .ok (bytes, rest) := by
  rw [take, if_neg (by simp), List.take_left, List.drop_left]

theorem readText_write {s : String} (h : s.utf8ByteSize < 2 ^ 64) (rest : Bytes) :
    Field.readText .lengthDelimited
      (Varint.write (Bytes.ofText s).length ++ Bytes.ofText s ++ rest) = .ok (s, rest) := by
  rw [← Bytes.length_ofText] at h
  rw [Field.readText, require, if_pos rfl, List.append_assoc]
  change (readVarint _ >>= fun _ => _) = _
  rw [readVarint_write h]
  change (take _ _ >>= fun _ => _) = _
  rw [take_append]
  dsimp only [bind, Except.bind]
  rw [Bytes.text?_ofText]
  rfl

namespace Message

variable {α β : Type} {m : Message α} {depth : Nat} {a b c q : α} {xs ys : Bytes}

/-- The message `a` becomes `b` when the bytes are read, whatever comes after them. -/
def Reads (m : Message α) (depth : Nat) (a : α) (bytes : Bytes) (b : α) : Prop :=
  ∃ n ≤ bytes.length, ∀ limit fuel rest, limit ≤ rest.length →
    m.mergeUntil depth limit (n + fuel) a (bytes ++ rest) = m.mergeUntil depth limit fuel b rest

theorem Reads.nil (m : Message α) (depth : Nat) (a : α) : m.Reads depth a [] a :=
  ⟨0, Nat.le_refl 0, fun limit fuel rest _ => by rw [Nat.zero_add, List.nil_append]⟩

theorem Reads.append (h : m.Reads depth a xs b) (h' : m.Reads depth b ys c) :
    m.Reads depth a (xs ++ ys) c := by
  obtain ⟨n, hn, hfirst⟩ := h
  obtain ⟨n', hn', hsecond⟩ := h'
  refine ⟨n + n', ?_, fun limit fuel rest hlimit => ?_⟩
  · rw [List.length_append]
    exact Nat.add_le_add hn hn'
  · have hbefore : limit ≤ (ys ++ rest).length := by
      rw [List.length_append]
      exact Nat.le_trans hlimit (Nat.le_add_left _ _)
    rw [Nat.add_assoc, List.append_assoc, hfirst _ _ _ hbefore, hsecond _ _ _ hlimit]

theorem Reads.field {tag : Nat} {f : Field α} {wireType : WireType} {value : Bytes}
    (hfind : m.fields.find? (fun f => f.tag == tag) = some f) (htag : 0 < tag)
    (hmax : 8 * tag + 7 ≤ maxKey)
    (hmerge : ∀ rest, f.merge depth wireType a (value ++ rest) = .ok (b, rest)) :
    m.Reads depth a (writeKey tag wireType ++ value) b := by
  have hkey : 1 ≤ (writeKey tag wireType).length :=
    List.length_pos_iff.2 (Varint.write_ne_nil _)
  refine ⟨1, ?_, fun limit fuel rest hlimit => ?_⟩
  · rw [List.length_append]
    omega
  · have hmore : ¬ (writeKey tag wireType ++ value ++ rest).length ≤ limit := by
      rw [List.length_append, List.length_append]
      omega
    have hfield :
        m.mergeField depth a (writeKey tag wireType ++ value ++ rest) = .ok (b, rest) := by
      rw [mergeField, List.append_assoc, readKey_writeKey htag hmax]
      dsimp only [bind, Except.bind]
      rw [hfind]
      dsimp only
      rw [hmerge]
      rfl
    rw [Nat.add_comm, mergeUntil, if_neg hmore, hfield]
    rfl

theorem read_of_reads (h : m.Reads maxDepth m.default xs a) : m.read xs = .ok a := by
  obtain ⟨n, hn, hreads⟩ := h
  have hall := hreads 0 (xs.length - n) [] (Nat.le_refl 0)
  rw [Nat.add_sub_cancel' hn, List.append_nil] at hall
  rw [read, hall]
  cases xs.length - n with
  | zero => rfl
  | succ fuel => rfl

section Fields

variable {tag : Nat} {name : String}

theorem reads_number [DecidableEq β] {zero : β} {toNumber : β → Nat} {ofNumber : Nat → β}
    {get : α → β} {set : β → α → α}
    (hfind : m.fields.find? (fun f => f.tag == tag) =
      some (numberField zero toNumber ofNumber tag name get set))
    (htag : 0 < tag) (hmax : 8 * tag + 7 ≤ maxKey) (hfits : toNumber (get q) < 2 ^ 64)
    (hback : ofNumber (toNumber (get q)) = get q) (hzero : get q = zero → set zero a = a) :
    m.Reads depth a ((numberField zero toNumber ofNumber tag name get set).write q)
      (set (get q) a) := by
  change m.Reads depth a (if get q = zero then [] else _) _
  split
  · next hget =>
    rw [hget, hzero hget]
    exact .nil m depth a
  · refine .field hfind htag hmax fun rest => ?_
    change (readVarint _ >>= fun r => Except.ok (set (ofNumber r.1) a, r.2)) = _
    rw [readVarint_write hfits]
    exact congrArg (fun v => Except.ok (set v a, rest)) hback

theorem reads_writeText {f : Field α} {s : String}
    (hfind : m.fields.find? (fun f => f.tag == tag) = some f) (htag : 0 < tag)
    (hmax : 8 * tag + 7 ≤ maxKey) (hfits : s.utf8ByteSize < 2 ^ 64)
    (hmerge : ∀ bytes rest, Field.readText .lengthDelimited bytes = .ok (s, rest) →
      f.merge depth .lengthDelimited a bytes = .ok (b, rest)) :
    m.Reads depth a (Field.writeText tag s) b := by
  rw [Field.writeText, List.append_assoc]
  exact .field hfind htag hmax fun rest => hmerge _ rest (readText_write hfits rest)

theorem reads_text {get : α → String} {set : String → α → α}
    (hfind : m.fields.find? (fun f => f.tag == tag) = some (.text tag name get set))
    (htag : 0 < tag) (hmax : 8 * tag + 7 ≤ maxKey) (hfits : (get q).utf8ByteSize < 2 ^ 64)
    (hempty : get q = "" → set "" a = a) :
    m.Reads depth a ((Field.text tag name get set).write q) (set (get q) a) := by
  change m.Reads depth a (if get q = "" then [] else _) _
  split
  · next hget =>
    rw [hget, hempty hget]
    exact .nil m depth a
  · refine reads_writeText hfind htag hmax hfits fun bytes rest hread => ?_
    change (Field.readText _ _ >>= fun r => Except.ok (set r.1 a, r.2)) = _
    rw [hread]
    rfl

theorem reads_optionalText {get : α → Option String} {set : Option String → α → α}
    (hfind : m.fields.find? (fun f => f.tag == tag) = some (.optionalText tag name get set))
    (htag : 0 < tag) (hmax : 8 * tag + 7 ≤ maxKey)
    (hfits : ∀ s ∈ get q, s.utf8ByteSize < 2 ^ 64) (hnone : get q = none → set none a = a) :
    m.Reads depth a ((Field.optionalText tag name get set).write q) (set (get q) a) := by
  dsimp only [Field.optionalText]
  cases hget : get q with
  | none =>
    rw [hnone hget]
    exact .nil m depth a
  | some s =>
    refine reads_writeText hfind htag hmax (hfits s hget) fun bytes rest hread => ?_
    change (Field.readText _ _ >>= fun r => Except.ok (set (some r.1) a, r.2)) = _
    rw [hread]
    rfl

end Fields

end Message

end Wire

open Wire Message

/-- The texts of the order are short enough for their lengths to be written. -/
structure LaunchQuery.Writable (q : LaunchQuery) : Prop where
  blockId : q.blockId.utf8ByteSize < 2 ^ 64
  inputPath : q.inputPath.utf8ByteSize < 2 ^ 64
  programPath : ∀ path ∈ q.programPath, path.utf8ByteSize < 2 ^ 64

theorem LaunchQuery.read_write {q : LaunchQuery} (h : q.Writable) :
    Schema.launchQuery.read (Schema.launchQuery.write q) = .ok q := by
  apply read_of_reads
  simp only [Message.write, Schema.launchQuery, List.flatMap_cons, List.flatMap_nil]
  refine .append (reads_text rfl (by decide) (by decide) h.blockId fun _ => rfl) ?_
  refine .append (reads_number rfl (by decide) (by decide) ?_ UInt32.ofNat_toNat fun _ => rfl) ?_
  · exact Nat.lt_trans q.capacity.toNat_lt (by decide)
  refine .append (reads_text rfl (by decide) (by decide) h.inputPath fun _ => rfl) ?_
  refine .append (reads_optionalText rfl (by decide) (by decide) h.programPath fun _ => rfl) ?_
  exact .nil _ _ _

end CoordinatorGateway
