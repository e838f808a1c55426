import CoordinatorGateway.Files.Path
import CoordinatorGateway.Proofs.Text.Pieces
import CoordinatorGateway.Validation.Location

namespace CoordinatorGateway

namespace Location

/-- What a piece of a path stands for, if for anything. -/
def part? (piece : String) : Option Part :=
  if piece = "" ∨ piece = "." then none
  else if piece = ".." then some .parent
  else some (.name piece)

/-- The parts of a path but for the root. -/
def steps (path : String) : List Part := (Path.pieces path).filterMap part?

theorem parts_eq (path : String) :
    parts path = (if Path.isAbsolute path then [.root] else []) ++ steps path := rfl

theorem part?_eq_none_iff {piece : String} : part? piece = none ↔ piece = "" ∨ piece = "." := by
  rw [part?]
  split
  · next h => exact ⟨fun _ => h, fun _ => rfl⟩
  · next h =>
    refine ⟨fun hnone => ?_, fun hidle => absurd hidle h⟩
    split at hnone
    · cases hnone
    · cases hnone

theorem part?_eq_some_name_iff {piece name : String} :
    part? piece = some (.name name) ↔ piece = name ∧ name ≠ "" ∧ name ≠ "." ∧ name ≠ ".." := by
  rw [part?]
  constructor
  · intro h
    split at h
    · cases h
    · next hidle =>
      split at h
      · cases h
      · next hup =>
        cases h
        exact ⟨rfl, fun hempty => hidle (.inl hempty), fun hpoint => hidle (.inr hpoint), hup⟩
  · rintro ⟨rfl, hempty, hpoint, hup⟩
    rw [if_neg (fun hidle => hidle.elim hempty hpoint), if_neg hup]

end Location

namespace Path

open Location (part? steps)

variable {path folder last piece : String} {first : Bool} {ps rest : List String}

theorem pieces_slash (path : String) : pieces ("/" ++ path) = "" :: pieces path := by
  rw [pieces, Text.splitAt, String.toList_append]
  rfl

theorem steps_slash (path : String) : steps ("/" ++ path) = steps path := by
  rw [steps, pieces_slash]
  rfl

theorem isAbsolute_slash (path : String) : isAbsolute ("/" ++ path) = true := by
  rw [isAbsolute, String.toList_append]
  rfl

theorem exists_of_isAbsolute (h : isAbsolute path = true) : ∃ rest, path = "/" ++ rest := by
  rw [isAbsolute, beq_iff_eq, List.head?_eq_some_iff] at h
  obtain ⟨cs, hcs⟩ := h
  refine ⟨String.ofList cs, ?_⟩
  rw [← String.toList_inj, hcs, String.toList_append]
  exact congrArg (List.cons '/') String.toList_ofList.symm

theorem pieces_ne_nil (path : String) : pieces path ≠ [] := by
  obtain ⟨piece, others, hcut⟩ := Text.exists_splitWhen_eq_cons (· == '/') path.toList
  rw [pieces, Text.splitAt, hcut]
  exact List.cons_ne_nil _ _

theorem isAbsolute_of_pieces (h : pieces path = "" :: rest) (hne : rest ≠ []) :
    isAbsolute path = true := by
  rw [pieces, Text.splitAt] at h
  cases htext : path.toList with
  | nil =>
    rw [htext] at h
    exact absurd (List.cons.inj h).2.symm hne
  | cons c cs =>
    rw [isAbsolute, htext, List.head?_cons, beq_iff_eq]
    obtain ⟨next, others, hcut⟩ := Text.exists_splitWhen_eq_cons (· == '/') cs
    rw [htext, Text.splitWhen, hcut] at h
    split at h
    · next hc => rw [beq_iff_eq.1 hc]
    · have hhead := (List.cons.inj h).1
      rw [← String.toList_inj, String.toList_ofList] at hhead
      cases hhead

theorem pieces_ofPieces (hne : ps ≠ []) (hps : ∀ p ∈ ps, '/' ∉ p.toList) :
    pieces (ofPieces ps) = ps := Text.splitAt_intercalate hne hps

theorem steps_ofPieces (hps : ∀ p ∈ ps, '/' ∉ p.toList) :
    steps (ofPieces ps) = ps.filterMap part? := by
  by_cases hne : ps = []
  · rw [hne]
    rfl
  · rw [steps, pieces_ofPieces hne hps]

/-- The pieces of a path without the empty one in front of the first slash. -/
def body (path : String) : List String :=
  if isAbsolute path then (pieces path).drop 1 else pieces path

theorem filterMap_body (path : String) : (body path).filterMap part? = steps path := by
  rw [body]
  split
  · next h =>
    obtain ⟨rest, rfl⟩ := exists_of_isAbsolute h
    rw [steps_slash, pieces_slash]
    rfl
  · rfl

theorem mem_pieces_of_mem_body (h : piece ∈ body path) : piece ∈ pieces path := by
  rw [body] at h
  split at h
  · exact List.mem_of_mem_drop h
  · exact h

theorem dropIdle_suffix (first : Bool) (ps : List String) : dropIdle first ps <:+ ps := by
  fun_induction dropIdle first ps with
  | case1 => exact List.suffix_refl _
  | case2 piece hdropped => exact List.nil_suffix
  | case3 piece hkept => exact List.suffix_refl _
  | case4 piece rest hmore hidle ih => exact ih.trans (List.suffix_cons piece rest)
  | case5 piece rest hmore hkept => exact List.suffix_refl _

theorem filterMap_dropIdle (first : Bool) (ps : List String) :
    (dropIdle first ps).filterMap part? = ps.filterMap part? := by
  fun_induction dropIdle first ps with
  | case1 => rfl
  | case2 piece hdropped =>
    have hnone : part? piece = none := by
      rw [Location.part?_eq_none_iff]
      simp only [Bool.or_eq_true, Bool.and_eq_true, beq_iff_eq] at hdropped
      exact hdropped.imp_right And.left
    rw [List.filterMap_cons_none hnone]
  | case3 piece hkept => rfl
  | case4 piece rest hmore hidle ih =>
    have hnone : part? piece = none := by
      rw [Location.part?_eq_none_iff]
      simpa [isIdle] using hidle
    rw [List.filterMap_cons_none hnone, ih]
  | case5 piece rest hmore hkept => rfl

/-- What is left begins with a piece that stands for a part, unless it is the point that starts a
relative path. -/
theorem dropIdle_eq_cons (h : dropIdle first ps = last :: rest) (hnone : part? last = none) :
    last = "." ∧ first = true ∧ rest = [] := by
  rw [Location.part?_eq_none_iff] at hnone
  fun_induction dropIdle first ps with
  | case1 => cases h
  | case2 piece hdropped => cases h
  | case3 piece hkept =>
    obtain ⟨rfl, rfl⟩ := List.cons.inj h
    rcases hnone with rfl | rfl
    · exact absurd rfl hkept
    · cases first with
      | true => exact ⟨rfl, rfl, rfl⟩
      | false => exact absurd rfl hkept
  | case4 piece rest hmore hidle ih => exact ih h
  | case5 piece rest hmore hkept =>
    obtain ⟨rfl, rfl⟩ := List.cons.inj h
    refine absurd ?_ hkept
    simpa [isIdle] using hnone

theorem before_last (h : dropIdle first ps.reverse = last :: rest) :
    let before := (dropIdle first rest).reverse
    before <+: ps ∧ ps.filterMap part? = before.filterMap part? ++ (part? last).toList := by
  have hsuffix : dropIdle first rest <:+ ps.reverse := by
    have hrest : rest <:+ ps.reverse := (List.suffix_cons last rest).trans (h ▸ dropIdle_suffix _ _)
    exact (dropIdle_suffix first rest).trans hrest
  have hparts : (last :: rest).filterMap part? = (ps.filterMap part?).reverse := by
    rw [← h, filterMap_dropIdle, List.filterMap_reverse]
  refine ⟨List.reverse_suffix.1 (by rwa [List.reverse_reverse]), ?_⟩
  rw [List.filterMap_reverse, filterMap_dropIdle, ← List.reverse_inj, ← hparts,
    List.reverse_append, List.reverse_reverse]
  cases hlast : part? last with
  | none =>
    rw [List.filterMap_cons_none hlast]
    rfl
  | some p =>
    rw [List.filterMap_cons_some hlast]
    rfl

theorem isAbsolute_ofPieces (hpath : isAbsolute path = false) (hps : ps <+: pieces path) :
    isAbsolute (ofPieces ps) = false := by
  have hslash : ∀ p ∈ ps, '/' ∉ p.toList := fun p hp => Text.separator_not_mem (hps.subset hp)
  rw [Bool.eq_false_iff] at hpath ⊢
  intro habsolute
  have hne : ps ≠ [] := by
    rintro rfl
    cases habsolute
  -- A slash in front would make the first piece empty, as only an absolute path has it.
  obtain ⟨rest, hrest⟩ := exists_of_isAbsolute habsolute
  have hcut : ps = "" :: pieces rest := by
    rw [← pieces_slash, ← hrest, pieces_ofPieces hne hslash]
  obtain ⟨more, hmore⟩ := hps
  rw [hcut] at hmore
  have hothers : pieces rest ++ more ≠ [] :=
    List.append_ne_nil_of_left_ne_nil (pieces_ne_nil rest) more
  exact hpath (isAbsolute_of_pieces hmore.symm hothers)

theorem splitLast?_eq_some (h : splitLast? path = some (folder, last)) :
    ∃ rest before, dropIdle (!isAbsolute path) (body path).reverse = last :: rest ∧
      before = (dropIdle (!isAbsolute path) rest).reverse ∧
      folder = if isAbsolute path then "/" ++ ofPieces before else ofPieces before := by
  simp only [splitLast?] at h
  split at h
  · cases h
  · next rest hback =>
    obtain ⟨rfl, rfl⟩ := Prod.mk.inj (Option.some.inj h)
    exact ⟨rest, _, hback, rfl, rfl⟩

theorem steps_of_splitLast?_eq_some (h : splitLast? path = some (folder, last)) :
    isAbsolute folder = isAbsolute path ∧ steps path = steps folder ++ (part? last).toList ∧
      (part? last = none → last = "." ∧ folder = "") := by
  obtain ⟨rest, before, hback, hbefore, hfolder⟩ := splitLast?_eq_some h
  obtain ⟨hstart, hsteps⟩ := before_last hback
  rw [← hbefore, filterMap_body] at hsteps
  rw [← hbefore] at hstart
  have hslash : ∀ p ∈ before, '/' ∉ p.toList := fun p hp =>
    Text.separator_not_mem (mem_pieces_of_mem_body (hstart.subset hp))
  cases habsolute : isAbsolute path with
  | true =>
    rw [habsolute, if_pos rfl] at hfolder
    obtain rfl := hfolder
    refine ⟨isAbsolute_slash (ofPieces before), ?_, fun hnone => ?_⟩
    · rw [hsteps, steps_slash, steps_ofPieces hslash]
    · obtain ⟨-, hfirst, -⟩ := dropIdle_eq_cons hback hnone
      rw [habsolute] at hfirst
      cases hfirst
  | false =>
    rw [habsolute, if_neg Bool.false_ne_true] at hfolder
    obtain rfl := hfolder
    have hpieces : before <+: pieces path := by
      rw [body, habsolute] at hstart
      exact hstart
    refine ⟨isAbsolute_ofPieces habsolute hpieces, ?_, fun hnone => ?_⟩
    · rw [hsteps, steps_ofPieces hslash]
    · obtain ⟨rfl, -, rfl⟩ := dropIdle_eq_cons hback hnone
      have hnothing : ofPieces before = "" := by
        rw [hbefore]
        rfl
      exact ⟨rfl, hnothing⟩

end Path

namespace Location

variable {path : String} {policy : Policy}

theorem exists_name_of_mem_steps (h : hasDots path = false) {p : Part} (hp : p ∈ steps path) :
    ∃ name, p = .name name := by
  obtain ⟨piece, hpiece, hpart⟩ := List.mem_filterMap.1 hp
  rw [part?] at hpart
  split at hpart
  · cases hpart
  · split at hpart
    · next hup =>
      have hdots : Text.occursIn ['.', '.'] path.toList = true := by
        rw [Text.occursIn_eq_true_iff]
        have hinfix := Text.infix_of_mem_splitAt hpiece
        rw [hup] at hinfix
        exact hinfix
      rw [hasDots, hdots] at h
      cases h
    · exact ⟨piece, (Option.some.inj hpart).symm⟩

theorem resolve_eq_walk {folder : String} {p : Part} (base : Option String)
    (habsolute : Path.isAbsolute folder = Path.isAbsolute path)
    (hsteps : steps path = steps folder ++ [p]) :
    resolve base path = walk (resolve base folder) p := by
  have hparts : parts path = parts folder ++ [p] := by
    rw [parts_eq, parts_eq, hsteps, habsolute, List.append_assoc]
  have hstart : isAbsolute folder = isAbsolute path := habsolute
  rw [resolve, resolve, hparts, hstart, ← List.append_assoc, List.foldl_append]
  rfl

/-- The path is one of the roots for inputs, or lies below one. -/
def Policy.Within (policy : Policy) (path : String) : Prop :=
  ∃ root ∈ policy.inputRoots, resolve policy.base root <+: resolve policy.base path

def Policy.Below (policy : Policy) (path : String) : Prop :=
  ∃ root ∈ policy.inputRoots, resolve policy.base root <+: resolve policy.base path ∧
    resolve policy.base root ≠ resolve policy.base path

theorem admits_eq_true_iff : policy.admits path = true ↔ policy.Within path := by
  simp only [Policy.admits, List.any_eq_true, List.isPrefixOf_iff_prefix, Policy.Within]

/-- A root that is above a path is its folder, or above that. -/
theorem Policy.within_iff_below {folder : String} {c : Component}
    (h : resolve policy.base path = resolve policy.base folder ++ [c]) :
    policy.Within folder ↔ policy.Below path := by
  constructor
  · rintro ⟨root, hroot, habove⟩
    refine ⟨root, hroot, ?_, fun hsame => ?_⟩
    · rw [h]
      exact habove.trans (List.prefix_append _ _)
    · have hle := habove.length_le
      rw [hsame, h, List.length_append, List.length_singleton] at hle
      omega
  · rintro ⟨root, hroot, habove, hne⟩
    rw [h] at habove hne
    rcases List.prefix_concat_iff.1 habove with hsame | habove
    · exact absurd hsame hne
    · exact ⟨root, hroot, habove⟩

instance : Decidable (policy.Within path) := decidable_of_iff _ admits_eq_true_iff

/-- What is asked of every path, whatever it is for. -/
structure WellFormed (path : String) : Prop where
  notEmpty : path.isEmpty = false
  short : path.utf8ByteSize ≤ maxLength
  noDots : hasDots path = false
  allowed : path.toList.all isAllowed = true

theorem fault?_eq_none_iff {purpose : Purpose} :
    fault? path purpose policy = none ↔
      WellFormed path ∧ (purpose = .input → policy.inputRoots ≠ [] → policy.Within path) := by
  rw [fault?]
  by_cases hempty : path.isEmpty = true
  · rw [if_pos hempty]
    exact ⟨nofun, fun h => absurd hempty (Bool.eq_false_iff.1 h.1.notEmpty)⟩
  by_cases hlong : maxLength < path.utf8ByteSize
  · rw [if_neg hempty, if_pos hlong]
    exact ⟨nofun, fun h => absurd hlong (Nat.not_lt.2 h.1.short)⟩
  by_cases hdots : hasDots path = true
  · rw [if_neg hempty, if_neg hlong, if_pos hdots]
    exact ⟨nofun, fun h => absurd hdots (Bool.eq_false_iff.1 h.1.noDots)⟩
  by_cases hallowed : path.toList.all isAllowed = true
  · have hform : WellFormed path := ⟨Bool.eq_false_iff.2 hempty, Nat.not_lt.1 hlong,
      Bool.eq_false_iff.2 hdots, hallowed⟩
    rw [if_neg hempty, if_neg hlong, if_neg hdots, hallowed, Bool.not_true,
      if_neg Bool.false_ne_true]
    by_cases hin : policy.Within path
    · rw [admits_eq_true_iff.2 hin, if_neg (fun h => Bool.noConfusion h.2.2)]
      exact ⟨fun _ => ⟨hform, fun _ _ => hin⟩, fun _ => rfl⟩
    · rw [Bool.eq_false_iff.2 (mt admits_eq_true_iff.1 hin)]
      split
      · next hout => exact ⟨nofun, fun h => absurd (h.2 hout.1 hout.2.1) hin⟩
      · next hother =>
        refine ⟨fun _ => ⟨hform, fun hinput hroots => ?_⟩, fun _ => rfl⟩
        exact absurd ⟨hinput, hroots, rfl⟩ hother
  · rw [if_neg hempty, if_neg hlong, if_neg hdots, Bool.eq_false_iff.2 hallowed, Bool.not_false,
      if_pos rfl]
    exact ⟨nofun, fun h => absurd h.1.allowed hallowed⟩

theorem check_eq_ok_iff {purpose : Purpose} {u : Unit} :
    check path purpose policy = .ok u ↔ fault? path purpose policy = none := by
  rw [check]
  cases fault? path purpose policy <;> simp

theorem of_fault?_eq_none (h : fault? path .input policy = none) :
    hasDots path = false ∧ (policy.inputRoots ≠ [] → policy.Within path) := by
  obtain ⟨hform, hwithin⟩ := fault?_eq_none_iff.1 h
  exact ⟨hform.noDots, hwithin rfl⟩

end Location

end CoordinatorGateway
