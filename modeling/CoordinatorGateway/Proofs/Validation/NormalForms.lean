import CoordinatorGateway.Proofs.Validation.Bases
import Mathlib.Data.List.Induction
import Mathlib.Logic.Relation

namespace CoordinatorGateway

namespace Path

theorem pieces_append_slash (before after : String) :
    pieces (before ++ "/" ++ after) = pieces before ++ pieces after :=
  Text.splitAt_append_separator '/' before after

theorem isAbsolute_append {base : String} (h : base.isEmpty = false) (path : String) :
    isAbsolute (base ++ path) = isAbsolute base := by
  have hne : base.toList ≠ [] := by
    intro hnil
    rw [String.toList_eq_nil_iff] at hnil
    rw [hnil] at h
    cases h
  rw [isAbsolute, isAbsolute, String.toList_append, List.head?_append, List.head?_eq_some_head hne]
  rfl

theorem exists_of_getLast? {base : String} (h : base.toList.getLast? = some '/') :
    ∃ before, base = before ++ "/" := by
  obtain ⟨cs, hcs⟩ := List.getLast?_eq_some_iff.1 h
  refine ⟨String.ofList cs, ?_⟩
  rw [← String.toList_inj, hcs, String.toList_append, String.toList_ofList]
  rfl

end Path

namespace Location

open Relation (ReflTransGen)

theorem steps_append_slash (before after : String) :
    steps (before ++ "/" ++ after) = steps before ++ steps after := by
  rw [steps, Path.pieces_append_slash, List.filterMap_append]
  rfl

theorem parts_join {path : String} (h : isAbsolute path = false) (base : String) :
    parts (Path.join base path) = parts base ++ parts path := by
  have hpath : parts path = steps path := by
    rw [parts_eq, show Path.isAbsolute path = false from h]
    rfl
  have hrelative : ¬ Path.isAbsolute path = true := Bool.eq_false_iff.1 h
  rw [Path.join]
  cases hempty : base.isEmpty with
  | true =>
    rw [if_pos (.inr rfl), String.isEmpty_iff.1 hempty]
    rfl
  | false =>
    rw [if_neg (fun hstart => hstart.elim hrelative Bool.false_ne_true), hpath]
    split
    · next hslash =>
      obtain ⟨before, rfl⟩ := Path.exists_of_getLast? (beq_iff_eq.1 hslash)
      have hbefore : steps (before ++ "/") = steps before := by
        have hcut := steps_append_slash before ""
        rw [String.append_empty] at hcut
        rw [hcut]
        exact List.append_nil _
      rw [parts_eq, parts_eq, Path.isAbsolute_append hempty, steps_append_slash, hbefore,
        List.append_assoc]
    · rw [parts_eq, parts_eq, steps_append_slash, String.append_assoc,
        Path.isAbsolute_append hempty, List.append_assoc]

theorem parts_join_of_isAbsolute {path : String} (h : isAbsolute path = true) (base : String) :
    parts (Path.join base path) = parts path := by
  rw [Path.join, if_pos (.inl h)]

/-- A step up cancels the component before it, if there is one other than the root, and is gone. -/
inductive Cancels : List Part → List Part → Prop
  | name (before : List Part) (s : String) (after : List Part) :
      Cancels (before ++ .name s :: .parent :: after) (before ++ after)
  | root (before after : List Part) :
      Cancels (before ++ .root :: .parent :: after) (before ++ .root :: after)
  | start (after : List Part) : Cancels (.parent :: after) after

namespace Cancels

variable {ps qs : List Part}

theorem append (h : Cancels ps qs) (rest : List Part) : Cancels (ps ++ rest) (qs ++ rest) := by
  cases h with
  | name before s after =>
    rw [List.append_assoc, List.append_assoc]
    exact .name before s (after ++ rest)
  | root before after =>
    rw [List.append_assoc, List.append_assoc]
    exact .root before (after ++ rest)
  | start => exact .start (qs ++ rest)

theorem sublist (h : Cancels ps qs) : qs.Sublist ps := by
  cases h with
  | name before s after =>
    exact (((List.sublist_cons_self .parent after).cons (.name s))).append_left before
  | root before after =>
    exact ((List.sublist_cons_self .parent after).cons_cons .root).append_left before
  | start => exact List.sublist_cons_self .parent qs

theorem foldl_walk (h : Cancels ps qs) : ps.foldl walk [] = qs.foldl walk [] := by
  cases h with
  | name before s after =>
    rw [List.foldl_append, List.foldl_append, List.foldl_cons, List.foldl_cons]
    generalize before.foldl walk [] = out
    have hname : some (Component.name s) ≠ some .root := by
      intro h
      cases h
    rw [walk, walk, dropName, List.getLast?_concat, if_neg hname, List.dropLast_concat]
  | root before after =>
    rw [List.foldl_append, List.foldl_append]
    rfl
  | start => rfl

end Cancels

def Component.part : Component → Part
  | .root => .root
  | .name s => .name s

/-- The components are what is left of the parts when no step up is left. -/
def LeftOf (ps : List Part) (cs : List Component) : Prop :=
  ReflTransGen Cancels ps (cs.map Component.part)

variable {ps : List Part} {cs : List Component}

theorem foldl_walk_part (hroot : .root ∉ (cs.map Component.part).tail) :
    (cs.map Component.part).foldl walk [] = cs := by
  have hnames (ds : List Component) (hds : .root ∉ ds.map Component.part) (out : List Component) :
      (ds.map Component.part).foldl walk out = out ++ ds := by
    induction ds generalizing out with
    | nil => exact (List.append_nil out).symm
    | cons d ds ih =>
      rw [List.map_cons, List.mem_cons, not_or] at hds
      cases d with
      | root => exact absurd rfl hds.1
      | name s =>
        rw [List.map_cons, List.foldl_cons, ih hds.2, Component.part, walk, List.append_assoc]
        rfl
  cases cs with
  | nil => rfl
  | cons c cs =>
    cases c with
    | root => exact hnames cs hroot [.root]
    | name s => exact hnames cs hroot [.name s]

theorem leftOf_foldl_walk (hroot : .root ∉ ps.tail) : LeftOf ps (ps.foldl walk []) := by
  induction ps using List.reverseRecOn with
  | nil => exact .refl
  | append_singleton ps p ih =>
    have hbefore : .root ∉ ps.tail := fun hmem =>
      hroot ((List.sublist_append_left ps [p]).tail.subset hmem)
    have hleft : ReflTransGen Cancels (ps ++ [p])
        ((ps.foldl walk []).map Component.part ++ [p]) :=
      (ih hbefore).lift (· ++ [p]) fun _ _ h => h.append [p]
    rw [LeftOf, List.foldl_append, List.foldl_cons, List.foldl_nil]
    refine hleft.trans ?_
    cases p with
    | name s =>
      rw [walk, List.map_append]
      exact .refl
    | root =>
      cases ps with
      | nil => exact .refl
      | cons q ps => exact absurd (List.mem_append_right ps (List.mem_singleton.2 rfl)) hroot
    | parent =>
      -- What the step up meets is the last component so far.
      generalize ps.foldl walk [] = out
      induction out using List.reverseRecOn with
      | nil => exact .single (.start [])
      | append_singleton out c _ =>
        rw [List.map_append, List.append_assoc]
        cases c with
        | root =>
          rw [walk, dropName, List.getLast?_concat, if_pos rfl, List.map_append]
          exact .single (.root (out.map Component.part) [])
        | name s =>
          have hname : some (Component.name s) ≠ some .root := by
            intro h
            cases h
          rw [walk, dropName, List.getLast?_concat, if_neg hname, List.dropLast_concat]
          have hcancels := Cancels.name (out.map Component.part) s []
          rw [List.append_nil] at hcancels
          exact .single hcancels

/-- Whatever the order, the same components are left. -/
theorem leftOf_iff (hroot : .root ∉ ps.tail) : LeftOf ps cs ↔ cs = ps.foldl walk [] := by
  constructor
  · intro h
    have hsame (qs : List Part) (hqs : ReflTransGen Cancels ps qs) :
        qs.Sublist ps ∧ ps.foldl walk [] = qs.foldl walk [] := by
      induction hqs with
      | refl => exact ⟨List.Sublist.refl ps, rfl⟩
      | tail _ hstep ih => exact ⟨hstep.sublist.trans ih.1, ih.2.trans hstep.foldl_walk⟩
    obtain ⟨hsublist, hwalk⟩ := hsame _ h
    rw [hwalk, foldl_walk_part fun hmem => hroot (hsublist.tail.subset hmem)]
  · rintro rfl
    exact leftOf_foldl_walk hroot

/-- The components of a path: what is left of the parts of its text, joined to the base where it is
relative. -/
def Normalizes (base : Option String) (path : String) (cs : List Component) : Prop :=
  LeftOf (parts (Path.join (base.getD "/") path)) cs

theorem normalizes_iff {base : Option String} {path : String} :
    Normalizes base path cs ↔ cs = resolve base path := by
  have hroot (text : String) : .root ∉ (parts text).tail := by
    rw [parts_eq]
    intro hmem
    split at hmem
    · exact root_not_mem_steps text hmem
    · exact root_not_mem_steps text (List.mem_of_mem_tail hmem)
  rw [Normalizes, leftOf_iff (hroot _), resolve]
  cases habsolute : isAbsolute path with
  | true => rw [parts_join_of_isAbsolute habsolute, if_pos rfl, List.nil_append]
  | false => rw [parts_join habsolute, if_neg Bool.false_ne_true]

/-- Every path has its components, and these only. -/
theorem existsUnique_normalizes (base : Option String) (path : String) :
    ∃! cs, Normalizes base path cs :=
  ⟨resolve base path, normalizes_iff.2 rfl, fun _ h => normalizes_iff.1 h⟩

theorem isAllowed_eq_true_iff {c : Char} : isAllowed c = true ↔
    ('A' ≤ c ∧ c ≤ 'Z') ∨ ('a' ≤ c ∧ c ≤ 'z') ∨ ('0' ≤ c ∧ c ≤ '9') ∨
      c = '/' ∨ c = '.' ∨ c = '_' ∨ c = '-' := by
  delta isAllowed Char.isAlphanum Char.isAlpha Char.isUpper Char.isLower Char.isDigit
  simp only [Bool.or_eq_true, Bool.and_eq_true, decide_eq_true_eq, beq_iff_eq, or_assoc]
  rfl

theorem hasDots_eq_false_iff {path : String} : hasDots path = false ↔
    ¬ ['.', '.'] <:+: path.toList ∧ ¬ ['/', '/'] <:+: path.toList := by
  rw [hasDots, Bool.or_eq_false_iff, ← Bool.not_eq_true, ← Bool.not_eq_true,
    Text.occursIn_eq_true_iff, Text.occursIn_eq_true_iff]

theorem wellFormed_iff {path : String} : WellFormed path ↔
    path ≠ "" ∧ path.utf8ByteSize ≤ 512 ∧
      (¬ ['.', '.'] <:+: path.toList ∧ ¬ ['/', '/'] <:+: path.toList) ∧
      ∀ c ∈ path.toList, ('A' ≤ c ∧ c ≤ 'Z') ∨ ('a' ≤ c ∧ c ≤ 'z') ∨ ('0' ≤ c ∧ c ≤ '9') ∨
        c = '/' ∨ c = '.' ∨ c = '_' ∨ c = '-' := by
  rw [← hasDots_eq_false_iff]
  simp only [← isAllowed_eq_true_iff, ← List.all_eq_true]
  constructor
  · rintro ⟨hne, hshort, hdots, hallowed⟩
    refine ⟨fun hempty => ?_, hshort, hdots, hallowed⟩
    rw [hempty] at hne
    cases hne
  · rintro ⟨hne, hshort, hdots, hallowed⟩
    exact ⟨Bool.eq_false_iff.2 (mt String.isEmpty_iff.1 hne), hshort, hdots, hallowed⟩

theorem within_iff {policy : Policy} {path : String} : policy.Within path ↔
    ∃ root ∈ policy.inputRoots, ∃ above below, Normalizes policy.base root above ∧
      Normalizes policy.base path below ∧ above <+: below := by
  simp only [Policy.Within, normalizes_iff]
  constructor
  · rintro ⟨root, hroot, habove⟩
    exact ⟨root, hroot, _, _, rfl, rfl, habove⟩
  · rintro ⟨root, hroot, above, below, rfl, rfl, habove⟩
    exact ⟨root, hroot, habove⟩

/-- What makes a path pass. The roots matter for inputs alone, and a root admits what has all its
components at the start. -/
theorem check_passes_iff (path : String) (purpose : Purpose) (policy : Policy) :
    (check path purpose policy = .ok () ↔
      path ≠ "" ∧ path.utf8ByteSize ≤ 512 ∧
        (¬ ['.', '.'] <:+: path.toList ∧ ¬ ['/', '/'] <:+: path.toList) ∧
        (∀ c ∈ path.toList, ('A' ≤ c ∧ c ≤ 'Z') ∨ ('a' ≤ c ∧ c ≤ 'z') ∨ ('0' ≤ c ∧ c ≤ '9') ∨
          c = '/' ∨ c = '.' ∨ c = '_' ∨ c = '-') ∧
        (purpose = .input → policy.inputRoots ≠ [] →
          ∃ root ∈ policy.inputRoots, ∃ above below, Normalizes policy.base root above ∧
            Normalizes policy.base path below ∧ above <+: below)) ∧
      ∀ roots, check path .program { policy with inputRoots := roots } =
        check path .program policy := by
  constructor
  · rw [check_eq_ok_iff, fault?_eq_none_iff, wellFormed_iff, within_iff]
    simp only [and_assoc]
  · intro roots
    rw [check, check, fault?, fault?]
    simp only [reduceCtorEq, false_and, if_false]

example : check "/data-evil/x" .input ⟨["/data", "inputs/../data/./"], none⟩ =
    .error (.invalidArgument "input_path is outside the allowed input directories") := by
  decide +kernel

end Location

end CoordinatorGateway
