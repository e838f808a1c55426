import CoordinatorGateway.Text.Basic

namespace CoordinatorGateway.Text

variable {isSeparator : Char → Bool} {separator : Char} {s piece : String}

theorem splitWhen_eq_splitOnP (isSeparator : Char → Bool) (cs : List Char) :
    splitWhen isSeparator cs = cs.splitOnP isSeparator := by
  induction cs with
  | nil => rfl
  | cons c cs ih =>
    rw [splitWhen, List.splitOnP_cons_eq_if_modifyHead, ih]
    cases hpieces : cs.splitOnP isSeparator with
    | nil => exact absurd hpieces (List.splitOnP_ne_nil isSeparator cs)
    | cons piece pieces => rfl

theorem splitAt_eq (separator : Char) (s : String) :
    splitAt separator s = (s.toList.splitOn separator).map String.ofList := by
  rw [splitAt, splitWhen_eq_splitOnP]
  rfl

theorem splitAt_intercalate {pieces : List String} (hne : pieces ≠ [])
    (hpieces : ∀ piece ∈ pieces, separator ∉ piece.toList) :
    splitAt separator ((String.ofList [separator]).intercalate pieces) = pieces := by
  have hcut : ([separator].intercalate (pieces.map String.toList)).splitOn separator =
      pieces.map String.toList := by
    apply List.splitOn_intercalate
    · intro cs hcs
      obtain ⟨piece, hpiece, rfl⟩ := List.mem_map.1 hcs
      exact hpieces piece hpiece
    · exact fun hnil => hne (List.map_eq_nil_iff.1 hnil)
  rw [splitAt_eq, String.toList_intercalate, String.toList_ofList, hcut, List.map_map]
  simp [Function.comp_def]

theorem exists_splitWhen_eq_cons (isSeparator : Char → Bool) (cs : List Char) :
    ∃ first others, splitWhen isSeparator cs = first :: others := by
  apply List.exists_cons_of_ne_nil
  rw [splitWhen_eq_splitOnP]
  exact List.splitOnP_ne_nil isSeparator cs

theorem splitWhen_append_cons (isSeparator : Char → Bool) {c : Char} (hc : isSeparator c = true)
    (before after : List Char) :
    splitWhen isSeparator (before ++ c :: after) =
      splitWhen isSeparator before ++ splitWhen isSeparator after := by
  induction before with
  | nil =>
    change splitWhen isSeparator (c :: after) = [] :: splitWhen isSeparator after
    rw [splitWhen, if_pos hc]
  | cons d before ih =>
    obtain ⟨first, others, hcut⟩ := exists_splitWhen_eq_cons isSeparator before
    rw [List.cons_append, splitWhen, splitWhen, ih, hcut]
    split
    · rfl
    · rfl

theorem splitAt_append_separator (separator : Char) (before after : String) :
    splitAt separator (before ++ String.ofList [separator] ++ after) =
      splitAt separator before ++ splitAt separator after := by
  have hcut := splitWhen_append_cons (· == separator) (beq_self_eq_true separator) before.toList
    after.toList
  rw [splitAt, String.append_assoc, String.toList_append, String.toList_append,
    String.toList_ofList]
  exact (congrArg (List.map String.ofList) hcut).trans List.map_append

theorem infix_of_splitWhen {cs first : List Char} {others : List (List Char)}
    (h : splitWhen isSeparator cs = first :: others) : first <+: cs ∧ ∀ q ∈ others, q <:+: cs := by
  induction cs generalizing first others with
  | nil =>
    obtain ⟨rfl, rfl⟩ := List.cons.inj h
    exact ⟨List.prefix_refl _, fun q hq => by cases hq⟩
  | cons c cs ih =>
    obtain ⟨next, rest, hrest⟩ := exists_splitWhen_eq_cons isSeparator cs
    obtain ⟨hnext, hothers⟩ := ih hrest
    rw [splitWhen, hrest] at h
    split at h
    · obtain ⟨rfl, rfl⟩ := List.cons.inj h
      refine ⟨List.nil_prefix, fun q hq => ?_⟩
      rcases List.mem_cons.1 hq with rfl | hq
      · exact List.infix_cons hnext.isInfix
      · exact List.infix_cons (hothers q hq)
    · obtain ⟨rfl, rfl⟩ := List.cons.inj h
      exact ⟨List.cons_prefix_cons.2 ⟨rfl, hnext⟩, fun q hq => List.infix_cons (hothers q hq)⟩

theorem infix_of_mem_splitAt (h : piece ∈ splitAt separator s) : piece.toList <:+: s.toList := by
  obtain ⟨cs, hcs, rfl⟩ := List.mem_map.1 h
  obtain ⟨first, others, hcut⟩ := exists_splitWhen_eq_cons (· == separator) s.toList
  obtain ⟨hfirst, hothers⟩ := infix_of_splitWhen hcut
  rw [String.toList_ofList]
  rw [hcut] at hcs
  rcases List.mem_cons.1 hcs with rfl | hcs
  · exact hfirst.isInfix
  · exact hothers cs hcs

theorem isSeparator_eq_false {cs cut : List Char} (h : cut ∈ splitWhen isSeparator cs) {c : Char}
    (hc : c ∈ cut) : isSeparator c = false := by
  induction cs generalizing cut with
  | nil =>
    obtain rfl := List.mem_singleton.1 h
    cases hc
  | cons d cs ih =>
    obtain ⟨next, rest, hrest⟩ := exists_splitWhen_eq_cons isSeparator cs
    rw [hrest] at ih
    rw [splitWhen, hrest] at h
    split at h
    · rcases List.mem_cons.1 h with rfl | h
      · cases hc
      · exact ih h hc
    · next hd =>
      rcases List.mem_cons.1 h with rfl | h
      · rcases List.mem_cons.1 hc with rfl | hc
        · exact Bool.eq_false_iff.2 hd
        · exact ih List.mem_cons_self hc
      · exact ih (List.mem_cons_of_mem next h) hc

theorem separator_not_mem (h : piece ∈ splitAt separator s) : separator ∉ piece.toList := by
  obtain ⟨cs, hcs, rfl⟩ := List.mem_map.1 h
  rw [String.toList_ofList]
  intro hmem
  have hother := isSeparator_eq_false hcs hmem
  rw [beq_self_eq_true] at hother
  cases hother

theorem occursIn_eq_true_iff {needle cs : List Char} :
    occursIn needle cs = true ↔ needle <:+: cs := by
  induction cs with
  | nil => rw [occursIn, List.isEmpty_iff, List.infix_nil]
  | cons c cs ih =>
    rw [occursIn, Bool.or_eq_true, ih, List.infix_cons_iff, List.isPrefixOf_iff_prefix]

end CoordinatorGateway.Text
