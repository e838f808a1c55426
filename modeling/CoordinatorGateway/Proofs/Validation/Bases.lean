import CoordinatorGateway.Files.FileSystem
import CoordinatorGateway.Proofs.Validation.Folders

namespace CoordinatorGateway.Location

def Part.name? : Part → Option Component
  | .name s => some (.name s)
  | _ => none

def names (path : String) : List Component := (steps path).filterMap Part.name?

variable {path root : String} {base base' : Option String} {directory directory' : String}
  {ps : List Part}

theorem root_not_mem_steps (path : String) : Part.root ∉ steps path := by
  intro hmem
  obtain ⟨piece, -, hpart⟩ := List.mem_filterMap.1 hmem
  rw [part?] at hpart
  split at hpart
  · cases hpart
  · split at hpart
    · cases hpart
    · cases hpart

theorem parent_not_mem_steps (h : hasDots path = false) : Part.parent ∉ steps path := by
  intro hmem
  obtain ⟨name, hname⟩ := exists_name_of_mem_steps h hmem
  cases hname

theorem foldl_walk_names (hroot : .root ∉ ps) (hup : .parent ∉ ps) (out : List Component) :
    ps.foldl walk out = out ++ ps.filterMap Part.name? := by
  induction ps generalizing out with
  | nil => exact (List.append_nil out).symm
  | cons p ps ih =>
    rw [List.mem_cons, not_or] at hroot hup
    cases p with
    | root => exact absurd rfl hroot.1
    | parent => exact absurd rfl hup.1
    | name s =>
      rw [List.foldl_cons, ih hroot.2 hup.2, walk, List.append_assoc]
      rfl

theorem resolve_of_isAbsolute (h : isAbsolute path = true) (base base' : Option String) :
    resolve base path = resolve base' path := by
  rw [resolve, resolve, if_pos h, if_pos h]

theorem resolve_of_relative (h : isAbsolute path = false) (hup : .parent ∉ steps path)
    (hbase : isAbsolute (base.getD "/") = true) :
    resolve base path = resolve none (base.getD "/") ++ names path := by
  have hparts : parts path = steps path := by
    rw [parts_eq, show Path.isAbsolute path = false from h]
    rfl
  rw [resolve, resolve, if_neg (Bool.eq_false_iff.1 h), if_pos hbase, List.nil_append,
    List.foldl_append, hparts, foldl_walk_names (root_not_mem_steps path) hup]
  rfl

theorem isAbsolute_path (place : Place) : isAbsolute ((some place.path).getD "/") = true :=
  Path.isAbsolute_slash _

theorem resolve_eq_iff (hup : .parent ∉ steps path) (place place' : Place) :
    resolve (some place.path) path = resolve (some place'.path) path ↔
      isAbsolute path = true ∨ resolve none place.path = resolve none place'.path := by
  cases habsolute : isAbsolute path with
  | true => exact ⟨fun _ => .inl rfl, fun _ => resolve_of_isAbsolute habsolute _ _⟩
  | false =>
    rw [resolve_of_relative habsolute hup (isAbsolute_path place),
      resolve_of_relative habsolute hup (isAbsolute_path place'), List.append_left_inj,
      Option.getD_some, Option.getD_some]
    exact ⟨.inr, fun h => h.resolve_left Bool.false_ne_true⟩

/-- The path is the root, or lies below it. -/
def Covers (base : Option String) (root path : String) : Prop :=
  resolve base root <+: resolve base path

/-- Root and path start alike, and neither leaves its start. -/
structure Alike (root path : String) : Prop where
  start : isAbsolute root = isAbsolute path
  noStepUp : isAbsolute root = false → .parent ∉ steps root

theorem Alike.covers_iff (h : Alike root path) (hpath : .parent ∉ steps path)
    (hbase : isAbsolute (base.getD "/") = true) (hbase' : isAbsolute (base'.getD "/") = true) :
    Covers base root path ↔ Covers base' root path := by
  rw [Covers, Covers]
  cases habsolute : isAbsolute root with
  | true =>
    rw [resolve_of_isAbsolute habsolute base base',
      resolve_of_isAbsolute (h.start ▸ habsolute) base base']
  | false =>
    have hrelative : isAbsolute path = false := h.start ▸ habsolute
    have hroot := h.noStepUp habsolute
    rw [resolve_of_relative habsolute hroot hbase, resolve_of_relative hrelative hpath hbase,
      resolve_of_relative habsolute hroot hbase', resolve_of_relative hrelative hpath hbase',
      List.prefix_append_right_inj, List.prefix_append_right_inj]

end CoordinatorGateway.Location
