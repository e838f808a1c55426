import CoordinatorGateway.Proofs.Json.Digits
import CoordinatorGateway.Proofs.Json.Strings

namespace CoordinatorGateway.Json

/-- The text of the value is read as the value, whatever comes after it that ends a number. -/
def Legible (v : Json) : Prop :=
  ∀ fuel depth rest, EndsNumber rest →
    readValue (fuel + 1) depth (bytesOf v.write ++ rest) = .ok (v, rest)

theorem legible_bool (b : Bool) : (Json.bool b).Legible := by
  intro fuel depth rest _
  rw [readValue]
  cases b with
  | true => rfl
  | false => rfl

theorem readValue_quote (fuel depth : Nat) (s : String) (rest : Bytes) :
    readValue (fuel + 1) depth (bytesOf (quote s) ++ rest) = .ok (.string s, rest) := by
  have hquote : bytesOf (quote s) ++ rest =
      34 :: (bytesOf (s.toList.flatMap escapeChar) ++ 34 :: rest) := by
    change bytesOf ['"'] ++ bytesOf (s.toList.flatMap escapeChar ++ ['"']) ++ rest = _
    rw [bytesOf_append, List.append_assoc, List.append_assoc]
    rfl
  rw [hquote, readValue]
  change (readString _ >>= fun _ => _) = _
  rw [readString_quote]
  rfl

theorem legible_string (s : String) : (Json.string s).Legible :=
  fun fuel depth rest _ => readValue_quote fuel depth s rest

theorem legible_nat {n : Nat} (hn : n ≤ maxWhole) : (Json.nat n).Legible := by
  intro fuel depth rest hrest
  have hblanks : Blanks [] := nofun
  have hwrite : bytesOf (Json.nat n).write = Bytes.ofText (toString n) := by
    rw [Bytes.ofText_eq_flatMap]
    rfl
  rw [hwrite]
  exact (readValue_toString hblanks hrest fuel depth n).1 hn

def writeMember (m : Member) : List Char := quote m.1 ++ ':' :: m.2.write

theorem writeMembers_cons (m : Member) (ms : List Member) :
    writeMembers (m :: ms) = writeMember m ++ ms.flatMap fun m => ',' :: writeMember m := by
  induction ms generalizing m with
  | nil =>
    rw [List.flatMap_nil, List.append_nil]
    rfl
  | cons m' ms ih =>
    rw [List.flatMap_cons, List.cons_append, ← ih m', writeMember, List.append_assoc]
    rfl

def afterMember (ms : List Member) (rest : Bytes) : Bytes :=
  bytesOf (ms.flatMap fun m => ',' :: writeMember m) ++ 125 :: rest

theorem afterMember_cons (m : Member) (ms : List Member) (rest : Bytes) :
    afterMember (m :: ms) rest = 44 :: (bytesOf (writeMember m) ++ afterMember ms rest) := by
  change bytesOf ([','] ++ writeMember m ++ ms.flatMap fun m => ',' :: writeMember m) ++ _ = _
  rw [bytesOf_append, bytesOf_append, List.append_assoc, List.append_assoc]
  rfl

theorem endsNumber_afterMember (ms : List Member) (rest : Bytes) :
    EndsNumber (afterMember ms rest) := by
  intro b hb
  cases ms with
  | nil =>
    obtain rfl := Option.some.inj hb
    exact ⟨rfl, by decide, rfl⟩
  | cons m ms =>
    rw [afterMember_cons] at hb ⊢
    obtain rfl := Option.some.inj hb
    exact ⟨rfl, by decide, rfl⟩

theorem length_le_afterMember (ms : List Member) (rest : Bytes) :
    ms.length < (afterMember ms rest).length := by
  induction ms with
  | nil => exact Nat.zero_lt_succ _
  | cons m ms ih =>
    rw [afterMember_cons, List.length_cons, List.length_cons, List.length_append]
    omega

theorem readMember_write {m : Member} (hm : m.2.Legible) {rest : Bytes} (hrest : EndsNumber rest) :
    ∃ more, bytesOf (writeMember m) ++ rest = 34 :: more ∧ ∀ fuel depth acc,
      readMember (fuel + 2) depth acc more =
        readMembers (fuel + 1) depth false (putMember m.1 m.2 acc) rest := by
  refine ⟨bytesOf (m.1.toList.flatMap escapeChar) ++ 34 :: 58 :: (bytesOf m.2.write ++ rest), ?_,
    fun fuel depth acc => ?_⟩
  · change bytesOf (['"'] ++ (m.1.toList.flatMap escapeChar ++ ['"']) ++ ([':'] ++ m.2.write)) ++
      rest = _
    simp only [bytesOf_append, List.append_assoc]
    rfl
  · rw [readMember, readString_quote]
    change (readValue (fuel + 1) depth (bytesOf m.2.write ++ rest) >>= fun _ => _) = _
    rw [hm fuel depth rest hrest]
    rfl

theorem readMembers_afterMember {ms : List Member} (hms : ∀ m ∈ ms, m.2.Legible) (depth : Nat)
    (acc : List Member) (rest : Bytes) {fuel : Nat} (hfuel : 2 * ms.length < fuel) :
    readMembers fuel depth false acc (afterMember ms rest) =
      .ok (.object (ms.foldl (fun acc m => putMember m.1 m.2 acc) acc), rest) := by
  induction ms generalizing acc fuel with
  | nil =>
    obtain ⟨fuel, rfl⟩ := Nat.exists_eq_add_of_lt hfuel
    rw [List.length_nil, Nat.mul_zero, Nat.zero_add, readMembers]
    rfl
  | cons m ms ih =>
    rw [List.forall_mem_cons] at hms
    rw [List.length_cons] at hfuel
    obtain ⟨fuel, rfl⟩ := Nat.exists_eq_add_of_le' (show 3 ≤ fuel by omega)
    obtain ⟨more, hmore, hmember⟩ := readMember_write hms.1 (endsNumber_afterMember ms rest)
    rw [afterMember_cons, hmore, readMembers]
    change readMember (fuel + 2) depth acc more = _
    rw [hmember, ih hms.2 _ (by omega)]
    rfl

theorem readValue_brace {depth : Nat} (hdepth : 1 < depth) (fuel : Nat) (rest : Bytes) :
    readValue (fuel + 1) depth (123 :: rest) = readMembers fuel (depth - 1) true [] rest := by
  rw [readValue]
  exact if_neg (Nat.not_le.2 hdepth)

/-- An object whose values are read back is read back itself, with its members sorted. -/
theorem read_render_object {ms : List Member} (hms : ∀ m ∈ ms, m.2.Legible) :
    read (Bytes.ofText (Json.object ms).render) = .ok (.map ms) := by
  have hdepth : 1 < maxDepth := by decide
  rw [render, ofText_ofList, write]
  cases ms with
  | nil =>
    have hbytes : bytesOf ('{' :: (writeMembers [] ++ ['}'])) = [123, 125] := rfl
    rw [hbytes, read, show stepBound [123, 125] = 4 + 1 + 1 from rfl, readValue_brace hdepth,
      readMembers]
    rfl
  | cons m ms =>
    rw [List.forall_mem_cons] at hms
    obtain ⟨more, hmore, hmember⟩ := readMember_write hms.1 (endsNumber_afterMember ms [])
    have hbytes : bytesOf ('{' :: (writeMembers (m :: ms) ++ ['}'])) = 123 :: 34 :: more := by
      rw [← hmore, writeMembers_cons, List.append_assoc]
      change 123 :: bytesOf
        (writeMember m ++ (ms.flatMap (fun m => ',' :: writeMember m) ++ ['}'])) = _
      rw [bytesOf_append, bytesOf_append]
      rfl
    have hbound : stepBound (123 :: 34 :: more) = 2 * more.length + 2 + 2 + 1 + 1 := by
      rw [stepBound, List.length_cons, List.length_cons]
      omega
    have hfuel : 2 * ms.length < 2 * more.length + 2 + 1 := by
      have hrest := length_le_afterMember ms []
      have hlength := congrArg List.length hmore
      rw [List.length_append, List.length_cons] at hlength
      omega
    have hopen : readMembers (2 * more.length + 2 + 2 + 1) (maxDepth - 1) true [] (34 :: more) =
        readMember (2 * more.length + 2 + 2) (maxDepth - 1) [] more := by
      rw [readMembers]
      rfl
    rw [hbytes, read, hbound, readValue_brace hdepth, hopen, hmember,
      readMembers_afterMember hms.2 _ _ _ hfuel]
    rfl

end CoordinatorGateway.Json
