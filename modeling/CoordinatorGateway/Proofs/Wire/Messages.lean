import CoordinatorGateway.Coordinator.Remote
import CoordinatorGateway.Proofs.Wire.RoundTrip

namespace CoordinatorGateway

namespace Wire

namespace Field

theorem size_le_writeText (tag : Nat) (s : String) :
    s.utf8ByteSize ≤ (writeText tag s).length := by
  rw [writeText, List.length_append, Bytes.length_ofText]
  exact Nat.le_add_left _ _

theorem length_le_writeMessage {β : Type} (inner : Message β) (tag : Nat) (b : β) :
    (inner.write b).length ≤ (writeMessage inner tag b).length := by
  rw [writeMessage, List.length_append]
  exact Nat.le_add_left _ _

end Field

theorem length_le_flatMap {β : Type} {vs : List β} {v : β} (w : β → Bytes) (hv : v ∈ vs) :
    (w v).length ≤ (vs.flatMap w).length := by
  rw [List.flatMap_def]
  exact (List.sublist_flatten_of_mem (List.mem_map_of_mem hv)).length_le

namespace Message

variable {α β : Type} {m : Message α} {depth : Nat} {a b c q : α}

/-- What is written of a message that is nested in others turns the default into it. -/
def Restores (m : Message α) (depth : Nat) : Prop :=
  ∀ a, (m.write a).length < 2 ^ 64 → m.Reads depth m.default (m.write a) a

/-- A message is read from its own bytes. Their number has to have a length of its own, as the
message may be one that another holds. -/
def ReadsBack (m : Message α) : Prop :=
  ∀ a, (m.write a).length < 2 ^ 64 → m.read (m.write a) = .ok a

theorem Restores.readsBack (h : m.Restores maxDepth) : m.ReadsBack :=
  fun a hlen => read_of_reads (h a hlen)

theorem mergeDelimited_write {inner : Message β} {v : β} (h : inner.Restores depth)
    (hlen : (inner.write v).length < 2 ^ 64) (rest : Bytes) :
    inner.mergeDelimited (depth + 1) inner.default
      (Varint.write (inner.write v).length ++ inner.write v ++ rest) = .ok (v, rest) := by
  obtain ⟨n, hn, hreads⟩ := h v hlen
  have hlength : (inner.write v ++ rest).length = (inner.write v).length + rest.length :=
    List.length_append
  have hfuel : (inner.write v ++ rest).length = n + ((inner.write v ++ rest).length - n) := by
    omega
  have hlimit : (inner.write v ++ rest).length - (inner.write v).length = rest.length := by
    omega
  have hfits : ¬ (inner.write v ++ rest).length < (inner.write v).length := by omega
  have hmerge : inner.mergeUntil depth rest.length (inner.write v ++ rest).length inner.default
      (inner.write v ++ rest) = .ok (v, rest) := by
    rw [hfuel, hreads _ _ _ (Nat.le_refl _)]
    cases (inner.write v ++ rest).length - n with
    | zero => rfl
    | succ fuel => rw [mergeUntil, if_pos (Nat.le_refl _)]
  rw [mergeDelimited, List.append_assoc, readVarint_write hlen]
  dsimp only [bind, Except.bind]
  rw [if_neg hfits, hlimit, hmerge]
  dsimp only
  rw [if_pos rfl]
  rfl

theorem Reads.next {f : Field α} {fs : List (Field α)}
    (hlen : ((f :: fs).flatMap fun f => f.write q).length < 2 ^ 64)
    (hfirst : (f.write q).length < 2 ^ 64 → m.Reads depth a (f.write q) b)
    (hrest : (fs.flatMap fun f => f.write q).length < 2 ^ 64 →
      m.Reads depth b (fs.flatMap fun f => f.write q) c) :
    m.Reads depth a ((f :: fs).flatMap fun f => f.write q) c := by
  rw [List.flatMap_cons, List.length_append] at hlen
  rw [List.flatMap_cons]
  exact .append (hfirst (by omega)) (hrest (by omega))

/-- Each entry is read at the end of the list of those before it. -/
theorem reads_entries {set : List β → α → α} {w : β → Bytes} {vs : List β}
    (hstep : ∀ v ∈ vs, ∀ us, m.Reads depth (set us a) (w v) (set (us ++ [v]) a)) (us : List β) :
    m.Reads depth (set us a) (vs.flatMap w) (set (us ++ vs) a) := by
  induction vs generalizing us with
  | nil =>
    rw [List.append_nil]
    exact .nil m depth _
  | cons v vs ih =>
    have hrest := ih (fun u hu => hstep u (List.mem_cons_of_mem v hu)) (us ++ [v])
    rw [List.append_assoc] at hrest
    exact .append (hstep v List.mem_cons_self us) hrest

section Fields

variable {tag : Nat} {name : String}

theorem reads_uint32 {get : α → UInt32} {set : UInt32 → α → α}
    (hfind : m.fields.find? (fun f => f.tag == tag) = some (.uint32 tag name get set))
    (htag : 0 < tag) (hmax : 8 * tag + 7 ≤ maxKey) (hzero : get q = 0 → set 0 a = a) :
    m.Reads depth a ((Field.uint32 tag name get set).write q) (set (get q) a) :=
  reads_number hfind htag hmax (Nat.lt_trans (get q).toNat_lt (by decide))
    UInt32.ofNat_toNat hzero

theorem reads_uint64 {get : α → UInt64} {set : UInt64 → α → α}
    (hfind : m.fields.find? (fun f => f.tag == tag) = some (.uint64 tag name get set))
    (htag : 0 < tag) (hmax : 8 * tag + 7 ≤ maxKey) (hzero : get q = 0 → set 0 a = a) :
    m.Reads depth a ((Field.uint64 tag name get set).write q) (set (get q) a) :=
  reads_number hfind htag hmax (get q).toNat_lt UInt64.ofNat_toNat hzero

theorem reads_boolean {get : α → Bool} {set : Bool → α → α}
    (hfind : m.fields.find? (fun f => f.tag == tag) = some (.boolean tag name get set))
    (htag : 0 < tag) (hmax : 8 * tag + 7 ≤ maxKey) (hzero : get q = false → set false a = a) :
    m.Reads depth a ((Field.boolean tag name get set).write q) (set (get q) a) := by
  refine reads_number hfind htag hmax (Nat.lt_trans (get q).toNat_lt (by decide)) ?_ hzero
  cases get q <;> rfl

/-- Cutting the sign's extension off leaves the number. -/
theorem ofNat_toInt64 (n : Int32) : (UInt32.ofNat n.toInt64.toUInt64.toNat).toInt32 = n := by
  have hbits : (n.toBitVec.signExtend 64).setWidth 32 = n.toBitVec := by
    ext i hi
    simp only [BitVec.getElem_setWidth, BitVec.getLsbD_signExtend]
    simp [hi, Nat.lt_trans hi]
  rw [UInt32.ofNat_uInt64ToNat, ← Int32.toBitVec_inj, ← hbits]
  rfl

theorem reads_enumeration {get : α → Int32} {set : Int32 → α → α}
    (hfind : m.fields.find? (fun f => f.tag == tag) = some (.enumeration tag name get set))
    (htag : 0 < tag) (hmax : 8 * tag + 7 ≤ maxKey) (hzero : get q = 0 → set 0 a = a) :
    m.Reads depth a ((Field.enumeration tag name get set).write q) (set (get q) a) :=
  reads_number hfind htag hmax (get q).toInt64.toUInt64.toNat_lt (ofNat_toInt64 _) hzero

theorem reads_text_of_length {get : α → String} {set : String → α → α}
    (hfind : m.fields.find? (fun f => f.tag == tag) = some (.text tag name get set))
    (htag : 0 < tag) (hmax : 8 * tag + 7 ≤ maxKey) (hempty : get q = "" → set "" a = a)
    (hlen : ((Field.text tag name get set).write q).length < 2 ^ 64) :
    m.Reads depth a ((Field.text tag name get set).write q) (set (get q) a) := by
  refine reads_text hfind htag hmax ?_ hempty
  by_cases hget : get q = ""
  · rw [hget]
    decide
  · refine Nat.lt_of_le_of_lt (Field.size_le_writeText tag _) ?_
    change (if get q = "" then [] else Field.writeText tag (get q)).length < _ at hlen
    rwa [if_neg hget] at hlen

theorem reads_optionalText_of_length {get : α → Option String} {set : Option String → α → α}
    (hfind : m.fields.find? (fun f => f.tag == tag) = some (.optionalText tag name get set))
    (htag : 0 < tag) (hmax : 8 * tag + 7 ≤ maxKey) (hnone : get q = none → set none a = a)
    (hlen : ((Field.optionalText tag name get set).write q).length < 2 ^ 64) :
    m.Reads depth a ((Field.optionalText tag name get set).write q) (set (get q) a) := by
  refine reads_optionalText hfind htag hmax (fun s hs => ?_) hnone
  refine Nat.lt_of_le_of_lt (Field.size_le_writeText tag s) ?_
  dsimp only [Field.optionalText] at hlen
  rwa [Option.mem_def.1 hs] at hlen

theorem reads_texts {get : α → List String} {set : List String → α → α}
    (hfind : m.fields.find? (fun f => f.tag == tag) = some (.texts tag name get set))
    (htag : 0 < tag) (hmax : 8 * tag + 7 ≤ maxKey) (hget : ∀ vs, get (set vs a) = vs)
    (hset : ∀ us vs, set vs (set us a) = set vs a) (hnil : set [] a = a)
    (hlen : ((Field.texts tag name get set).write q).length < 2 ^ 64) :
    m.Reads depth a ((Field.texts tag name get set).write q) (set (get q) a) := by
  have hall : m.Reads depth (set [] a) ((get q).flatMap (Field.writeText tag))
      (set ([] ++ get q) a) := by
    refine reads_entries (fun s hs us => ?_) []
    have hfits : s.utf8ByteSize < 2 ^ 64 :=
      Nat.lt_of_le_of_lt (Nat.le_trans (Field.size_le_writeText tag s)
        (length_le_flatMap _ hs)) hlen
    refine reads_writeText hfind htag hmax hfits fun bytes rest hread => ?_
    change (Field.readText _ _ >>= fun r =>
      Except.ok (set (get (set us a) ++ [r.1]) (set us a), r.2)) = _
    rw [hread, hget]
    exact congrArg (fun b => Except.ok (b, rest)) (hset us _)
  rwa [hnil] at hall

variable {inner : Message β}

theorem reads_writeMessage {f : Field α} {v : β}
    (hfind : m.fields.find? (fun f => f.tag == tag) = some f) (htag : 0 < tag)
    (hmax : 8 * tag + 7 ≤ maxKey) (hinner : inner.Restores depth)
    (hlen : (Field.writeMessage inner tag v).length < 2 ^ 64)
    (hmerge : ∀ bytes rest,
      inner.mergeDelimited (depth + 1) inner.default bytes = .ok (v, rest) →
        f.merge (depth + 1) .lengthDelimited a bytes = .ok (b, rest)) :
    m.Reads (depth + 1) a (Field.writeMessage inner tag v) b := by
  have hfits := Nat.lt_of_le_of_lt (Field.length_le_writeMessage inner tag v) hlen
  rw [Field.writeMessage, List.append_assoc]
  exact .field hfind htag hmax fun rest => hmerge _ rest (mergeDelimited_write hinner hfits rest)

theorem reads_messages {get : α → List β} {set : List β → α → α}
    (hfind : m.fields.find? (fun f => f.tag == tag) = some (.messages inner tag name get set))
    (htag : 0 < tag) (hmax : 8 * tag + 7 ≤ maxKey) (hinner : inner.Restores depth)
    (hget : ∀ vs, get (set vs a) = vs) (hset : ∀ us vs, set vs (set us a) = set vs a)
    (hnil : set [] a = a)
    (hlen : ((Field.messages inner tag name get set).write q).length < 2 ^ 64) :
    m.Reads (depth + 1) a ((Field.messages inner tag name get set).write q) (set (get q) a) := by
  have hall : m.Reads (depth + 1) (set [] a) ((get q).flatMap (Field.writeMessage inner tag))
      (set ([] ++ get q) a) := by
    refine reads_entries (fun v hv us => ?_) []
    have hfits := Nat.lt_of_le_of_lt (length_le_flatMap (Field.writeMessage inner tag) hv) hlen
    refine reads_writeMessage hfind htag hmax hinner hfits fun bytes rest hread => ?_
    change (inner.mergeDelimited _ _ _ >>= fun r =>
      Except.ok (set (get (set us a) ++ [r.1]) (set us a), r.2)) = _
    rw [hread, hget]
    exact congrArg (fun b => Except.ok (b, rest)) (hset us _)
  rwa [hnil] at hall

theorem reads_optionalMessage {get : α → Option β} {set : Option β → α → α}
    (hfind : m.fields.find? (fun f => f.tag == tag) =
      some (.optionalMessage inner tag name get set))
    (htag : 0 < tag) (hmax : 8 * tag + 7 ≤ maxKey) (hinner : inner.Restores depth)
    (hget : get a = none) (hnone : get q = none → set none a = a)
    (hlen : ((Field.optionalMessage inner tag name get set).write q).length < 2 ^ 64) :
    m.Reads (depth + 1) a ((Field.optionalMessage inner tag name get set).write q)
      (set (get q) a) := by
  dsimp only [Field.optionalMessage] at hlen ⊢
  cases hq : get q with
  | none =>
    rw [hnone hq]
    exact .nil m _ a
  | some v =>
    rw [hq] at hlen
    refine reads_writeMessage hfind htag hmax hinner hlen fun bytes rest hread => ?_
    change (inner.mergeDelimited _ ((get a).getD inner.default) _ >>= fun r =>
      Except.ok (set (some r.1) a, r.2)) = _
    rw [hget]
    change (inner.mergeDelimited _ inner.default _ >>= _) = _
    rw [hread]
    rfl

end Fields

end Message

end Wire

open Wire Message

namespace Schema

theorem infoQuery_restores (depth : Nat) : infoQuery.Restores depth :=
  fun _ _ => .nil _ _ _

theorem infoReply_restores (depth : Nat) : infoReply.Restores depth := by
  intro q hlen
  refine .next hlen (reads_text_of_length rfl (by decide) (by decide) fun _ => rfl) fun hlen => ?_
  refine .next hlen (reads_text_of_length rfl (by decide) (by decide) fun _ => rfl) fun hlen => ?_
  refine .next hlen (fun _ => reads_uint64 rfl (by decide) (by decide) fun _ => rfl) fun hlen => ?_
  refine .next hlen (fun _ => reads_uint64 rfl (by decide) (by decide) fun _ => rfl) fun _ => ?_
  exact .nil _ _ _

theorem loadQuery_restores (depth : Nat) : loadQuery.Restores depth :=
  fun _ _ => .nil _ _ _

theorem loadReply_restores (depth : Nat) : loadReply.Restores depth := by
  intro q hlen
  refine .next hlen (fun _ => reads_uint32 rfl (by decide) (by decide) fun _ => rfl) fun hlen => ?_
  refine .next hlen (fun _ => reads_uint32 rfl (by decide) (by decide) fun _ => rfl) fun hlen => ?_
  refine .next hlen (fun _ => reads_uint32 rfl (by decide) (by decide) fun _ => rfl) fun hlen => ?_
  refine .next hlen (fun _ => reads_uint64 rfl (by decide) (by decide) fun _ => rfl) fun hlen => ?_
  refine .next hlen (fun _ => reads_uint32 rfl (by decide) (by decide) fun _ => rfl) fun _ => ?_
  exact .nil _ _ _

theorem jobEntry_restores (depth : Nat) : jobEntry.Restores depth := by
  intro q hlen
  refine .next hlen (reads_text_of_length rfl (by decide) (by decide) fun _ => rfl) fun hlen => ?_
  refine .next hlen (reads_text_of_length rfl (by decide) (by decide) fun _ => rfl) fun hlen => ?_
  refine .next hlen (fun _ => reads_enumeration rfl (by decide) (by decide) fun _ => rfl)
    fun hlen => ?_
  refine .next hlen (reads_text_of_length rfl (by decide) (by decide) fun _ => rfl) fun hlen => ?_
  refine .next hlen (fun _ => reads_uint32 rfl (by decide) (by decide) fun _ => rfl) fun hlen => ?_
  refine .next hlen (reads_texts rfl (by decide) (by decide) (fun _ => rfl) (fun _ _ => rfl) rfl)
    fun hlen => ?_
  refine .next hlen (fun _ => reads_uint64 rfl (by decide) (by decide) fun _ => rfl) fun hlen => ?_
  refine .next hlen (fun _ => reads_uint64 rfl (by decide) (by decide) fun _ => rfl) fun hlen => ?_
  refine .next hlen (reads_text_of_length rfl (by decide) (by decide) fun _ => rfl) fun _ => ?_
  exact .nil _ _ _

theorem jobsQuery_restores (depth : Nat) : jobsQuery.Restores depth := by
  intro q hlen
  refine .next hlen (fun _ => reads_boolean rfl (by decide) (by decide) fun _ => rfl) fun _ => ?_
  exact .nil _ _ _

theorem jobsReply_restores (depth : Nat) : jobsReply.Restores (depth + 1) := by
  intro q hlen
  refine .next hlen (reads_messages rfl (by decide) (by decide) (jobEntry_restores depth)
    (fun _ => rfl) (fun _ _ => rfl) rfl) fun _ => ?_
  exact .nil _ _ _

theorem jobQuery_restores (depth : Nat) : jobQuery.Restores depth := by
  intro q hlen
  refine .next hlen (reads_text_of_length rfl (by decide) (by decide) fun _ => rfl) fun _ => ?_
  exact .nil _ _ _

theorem jobReply_restores (depth : Nat) : jobReply.Restores (depth + 1) := by
  intro q hlen
  refine .next hlen (reads_optionalMessage rfl (by decide) (by decide) (jobEntry_restores depth)
    rfl fun _ => rfl) fun _ => ?_
  exact .nil _ _ _

theorem workerEntry_restores (depth : Nat) : workerEntry.Restores depth := by
  intro q hlen
  refine .next hlen (reads_text_of_length rfl (by decide) (by decide) fun _ => rfl) fun hlen => ?_
  refine .next hlen (fun _ => reads_enumeration rfl (by decide) (by decide) fun _ => rfl)
    fun hlen => ?_
  refine .next hlen (fun _ => reads_uint32 rfl (by decide) (by decide) fun _ => rfl) fun hlen => ?_
  refine .next hlen (fun _ => reads_uint64 rfl (by decide) (by decide) fun _ => rfl) fun hlen => ?_
  refine .next hlen (fun _ => reads_uint64 rfl (by decide) (by decide) fun _ => rfl) fun hlen => ?_
  refine .next hlen (reads_text_of_length rfl (by decide) (by decide) fun _ => rfl) fun _ => ?_
  exact .nil _ _ _

theorem workersQuery_restores (depth : Nat) : workersQuery.Restores depth := by
  intro q hlen
  refine .next hlen (fun _ => reads_boolean rfl (by decide) (by decide) fun _ => rfl) fun _ => ?_
  exact .nil _ _ _

theorem workersReply_restores (depth : Nat) : workersReply.Restores (depth + 1) := by
  intro q hlen
  refine .next hlen (reads_messages rfl (by decide) (by decide) (workerEntry_restores depth)
    (fun _ => rfl) (fun _ _ => rfl) rfl) fun _ => ?_
  exact .nil _ _ _

theorem launchQuery_restores (depth : Nat) : launchQuery.Restores depth := by
  intro q hlen
  refine .next hlen (reads_text_of_length rfl (by decide) (by decide) fun _ => rfl) fun hlen => ?_
  refine .next hlen (fun _ => reads_uint32 rfl (by decide) (by decide) fun _ => rfl) fun hlen => ?_
  refine .next hlen (reads_text_of_length rfl (by decide) (by decide) fun _ => rfl) fun hlen => ?_
  refine .next hlen (reads_optionalText_of_length rfl (by decide) (by decide) fun _ => rfl)
    fun _ => ?_
  exact .nil _ _ _

theorem launchReply_restores (depth : Nat) : launchReply.Restores depth := by
  intro q hlen
  refine .next hlen (reads_text_of_length rfl (by decide) (by decide) fun _ => rfl) fun _ => ?_
  exact .nil _ _ _

end Schema

theorem Remote.jobStateName_eq_unknown_iff (n : Int32) :
    jobStateName n = "unknown" ↔ n ∉ [1, 2, 3, 4, 5] := by
  simp only [jobStateName, List.mem_cons, List.not_mem_nil, or_false, not_or]
  split_ifs <;> simp_all

theorem Remote.workerStateName_eq_unknown_iff (n : Int32) :
    workerStateName n = "unknown" ↔ n ∉ [1, 2, 3] := by
  simp only [workerStateName, List.mem_cons, List.not_mem_nil, or_false, not_or]
  split_ifs <;> simp_all

namespace Schema

/-- Every value of every message is read back from its bytes. Two launches that differ in whether
their program path is absent or empty have different bytes; and a state is whatever number was
written, which is shown as unknown where the enumeration has no name for it. -/
theorem readsBack_all :
    (infoQuery.ReadsBack ∧ infoReply.ReadsBack ∧ loadQuery.ReadsBack ∧ loadReply.ReadsBack ∧
      jobEntry.ReadsBack ∧ jobsQuery.ReadsBack ∧ jobsReply.ReadsBack ∧ jobQuery.ReadsBack ∧
      jobReply.ReadsBack ∧ workerEntry.ReadsBack ∧ workersQuery.ReadsBack ∧
      workersReply.ReadsBack ∧ launchQuery.ReadsBack ∧ launchReply.ReadsBack) ∧
    (∀ q : LaunchQuery, launchQuery.write { q with programPath := none } ≠
      launchQuery.write { q with programPath := some "" }) ∧
    (∀ e : JobEntry, (jobEntry.write e).length < 2 ^ 64 →
      ∃ e', jobEntry.read (jobEntry.write e) = .ok e' ∧ e'.state = e.state ∧
        ((Remote.jobOfEntry e').state = "unknown" ↔ e.state ∉ [1, 2, 3, 4, 5])) ∧
    (∀ e : WorkerEntry, (workerEntry.write e).length < 2 ^ 64 →
      ∃ e', workerEntry.read (workerEntry.write e) = .ok e' ∧ e'.state = e.state ∧
        ((Remote.workerOfEntry e').state = "unknown" ↔ e.state ∉ [1, 2, 3])) := by
  refine ⟨⟨(infoQuery_restores _).readsBack, (infoReply_restores _).readsBack,
    (loadQuery_restores _).readsBack, (loadReply_restores _).readsBack,
    (jobEntry_restores _).readsBack, (jobsQuery_restores _).readsBack,
    (jobsReply_restores _).readsBack, (jobQuery_restores _).readsBack,
    (jobReply_restores _).readsBack, (workerEntry_restores _).readsBack,
    (workersQuery_restores _).readsBack, (workersReply_restores _).readsBack,
    (launchQuery_restores _).readsBack, (launchReply_restores _).readsBack⟩,
    fun q hsame => ?_, fun e hlen => ?_, fun e hlen => ?_⟩
  · simp only [Message.write, launchQuery, List.flatMap_cons, List.flatMap_nil, Field.text,
      Field.uint32, numberField, Field.optionalText, List.append_right_inj,
      List.append_nil] at hsame
    have hkey : Field.writeText 4 "" = [] := List.self_eq_append_right.1 hsame
    exact absurd hkey (by decide)
  · exact ⟨e, (jobEntry_restores _).readsBack e hlen, rfl, Remote.jobStateName_eq_unknown_iff _⟩
  · exact ⟨e, (workerEntry_restores _).readsBack e hlen, rfl,
      Remote.workerStateName_eq_unknown_iff _⟩

def unnamedStates : JobsReply where
  jobs := [{ jobId := "j1", state := -1, assignedWorkers := ["w1", ""] },
    { blockId := "b2", state := 99, durationMs := 18446744073709551615, error := "é" }]

theorem readsBack_all_unnamed :
    (jobsReply.write unnamedStates).length < 2 ^ 64 ∧
      jobsReply.read (jobsReply.write unnamedStates) = .ok unnamedStates ∧
      ∀ e ∈ unnamedStates.jobs, ∃ e', jobEntry.read (jobEntry.write e) = .ok e' ∧
        e'.state = e.state ∧ (Remote.jobOfEntry e').state = "unknown" := by
  obtain ⟨⟨-, -, -, -, -, -, hjobs, -⟩, -, hstate, -⟩ := readsBack_all
  have hlen : (jobsReply.write unnamedStates).length < 2 ^ 64 := by decide
  refine ⟨hlen, hjobs _ hlen, fun e he => ?_⟩
  have hentry : (jobEntry.write e).length < 2 ^ 64 ∧ e.state ∉ [1, 2, 3, 4, 5] := by
    revert e
    decide
  obtain ⟨e', hread, hsame, hshown⟩ := hstate e hentry.1
  exact ⟨e', hread, hsame, hshown.2 hentry.2⟩

end Schema

end CoordinatorGateway
