import CoordinatorGateway.Files.FileSystem
import CoordinatorGateway.Proofs.Steps
import CoordinatorGateway.Proofs.Validation.Folders

namespace CoordinatorGateway

namespace FileSystem

variable {fs : FileSystem} {cwd : Place} {path : String}

/-- The path leads to this file, and the file may be run. -/
structure MayRunAt (fs : FileSystem) (cwd : Place) (path : String) (place : Place) (f : File) :
    Prop where
  leads : fs.walk cwd path = .ok place
  holds : fs.node? place = some (.file f)
  executable : f.executable = true

def MayRun (fs : FileSystem) (cwd : Place) (path : String) : Prop :=
  ∃ place f, fs.MayRunAt cwd path place f

theorem place?_eq_some_iff {place : Place} :
    fs.place? cwd path = some place ↔ fs.walk cwd path = .ok place := by
  rw [place?]
  cases fs.walk cwd path with
  | error e => exact ⟨nofun, nofun⟩
  | ok there => exact ⟨fun h => congrArg Except.ok (Option.some.inj h), fun h => congrArg _ h⟩

theorem find?_eq_some_iff {node : Node} : fs.find? cwd path = some node ↔
    ∃ place, fs.walk cwd path = .ok place ∧ fs.node? place = some node := by
  simp only [find?, Option.bind_eq_some_iff, place?_eq_some_iff]

theorem file?_eq_some_iff {f : File} :
    fs.file? cwd path = some f ↔ fs.find? cwd path = some (.file f) := by
  rw [file?]
  split
  · next g hg => rw [hg, Option.some_inj, Option.some_inj, Node.file.injEq]
  · next hother => exact ⟨nofun, fun h => absurd h (hother f)⟩

theorem isExecutable_iff : fs.isExecutable cwd path = true ↔ fs.MayRun cwd path := by
  rw [isExecutable, MayRun]
  constructor
  · intro h
    split at h
    · next f hf =>
      obtain ⟨place, hleads, hholds⟩ := find?_eq_some_iff.1 (file?_eq_some_iff.1 hf)
      exact ⟨place, f, hleads, hholds, h⟩
    · cases h
  · rintro ⟨place, f, hleads, hholds, hexecutable⟩
    rw [file?_eq_some_iff.2 (find?_eq_some_iff.2 ⟨place, hleads, hholds⟩)]
    exact hexecutable

theorem isDirectoryAt_iff {place : Place} :
    fs.isDirectoryAt place = true ↔ fs.node? place = some .directory := by
  rw [isDirectoryAt]
  split
  · next hdirectory => exact ⟨fun _ => hdirectory, fun _ => rfl⟩
  · next hother => exact ⟨nofun, fun h => absurd h hother⟩

theorem isDirectory_iff : fs.isDirectory cwd path = true ↔
    ∃ place, fs.walk cwd path = .ok place ∧ fs.isDirectoryAt place = true := by
  simp only [isDirectoryAt_iff, ← find?_eq_some_iff]
  rw [isDirectory]
  split
  · next hdirectory => exact ⟨fun _ => hdirectory, fun _ => rfl⟩
  · next hother => exact ⟨nofun, fun h => absurd h hother⟩

end FileSystem

namespace Path

variable {path last : String} {ps init : List String}

theorem ofPieces_pieces (path : String) : ofPieces (pieces path) = path := by
  have hback : (String.toList ∘ String.ofList) = id := funext fun cs => String.toList_ofList
  rw [← String.toList_inj, ofPieces, pieces, Text.splitAt_eq, String.toList_intercalate,
    List.map_map, hback, List.map_id]
  exact List.intercalate_splitOn '/'

theorem ofPieces_prefix {qs : List String} (h : ps <+: qs) :
    (ofPieces ps).toList <+: (ofPieces qs).toList := by
  obtain ⟨rest, rfl⟩ := h
  by_cases hps : ps = []
  · rw [hps]
    exact List.nil_prefix
  by_cases hrest : rest = []
  · simp only [hrest, List.append_nil, List.prefix_rfl]
  · rw [ofPieces, ofPieces, String.intercalate_append_of_ne_nil hps hrest, String.append_assoc,
      String.toList_append]
    exact List.prefix_append _ _

theorem parent?_prefix {folder : String} (h : parent? path = some folder) :
    folder.toList <+: path.toList := by
  obtain ⟨⟨_, last⟩, hlast, rfl⟩ := Option.map_eq_some_iff.1 h
  obtain ⟨rest, before, hback, hbefore, hfolder⟩ := splitLast?_eq_some hlast
  obtain ⟨hstart, -⟩ := before_last hback
  rw [← hbefore] at hstart
  have htext := ofPieces_prefix hstart
  cases habsolute : isAbsolute path with
  | true =>
    obtain ⟨text, rfl⟩ := exists_of_isAbsolute habsolute
    rw [body, habsolute, if_pos rfl, pieces_slash, List.drop_one, List.tail_cons,
      ofPieces_pieces] at htext
    rw [habsolute, if_pos rfl] at hfolder
    rw [hfolder, String.toList_append, String.toList_append, List.prefix_append_right_inj]
    exact htext
  | false =>
    rw [body, habsolute, if_neg Bool.false_ne_true, ofPieces_pieces] at htext
    rw [habsolute, if_neg Bool.false_ne_true] at hfolder
    rw [hfolder]
    exact htext

theorem pieces_of_bare (hbare : '/' ∉ path.toList) : pieces path = [path] := by
  have hback := pieces_ofPieces (List.cons_ne_nil path [])
    (List.forall_mem_singleton.2 hbare)
  rwa [ofPieces, String.intercalate_singleton] at hback

theorem slash_mem_of_isAbsolute (h : isAbsolute path = true) : '/' ∈ path.toList := by
  obtain ⟨rest, rfl⟩ := exists_of_isAbsolute h
  simp

theorem isAbsolute_of_bare (hbare : '/' ∉ path.toList) : isAbsolute path = false :=
  Bool.eq_false_iff.2 fun habsolute => hbare (slash_mem_of_isAbsolute habsolute)

theorem slash_not_mem_of_pieces (h : pieces path = [last]) : '/' ∉ path.toList := by
  have hlast : last = path := by
    rw [← ofPieces_pieces path, h]
    exact String.intercalate_singleton.symm
  rw [← hlast]
  exact Text.separator_not_mem (h ▸ List.mem_cons_self)

theorem exists_idle (first : Bool) (ps : List String) :
    ∃ idle, ps = idle ++ dropIdle first ps ∧ ∀ p ∈ idle, isIdle p = true := by
  fun_induction dropIdle first ps with
  | case1 => exact ⟨[], rfl, List.forall_mem_nil _⟩
  | case2 piece hdropped =>
    refine ⟨[piece], rfl, fun p hp => ?_⟩
    rw [List.mem_singleton.1 hp, isIdle]
    simp only [Bool.or_eq_true, Bool.and_eq_true] at hdropped ⊢
    exact hdropped.imp_right And.left
  | case3 piece hkept => exact ⟨[], rfl, List.forall_mem_nil _⟩
  | case4 piece rest hmore hidle ih =>
    obtain ⟨idle, hrest, hall⟩ := ih
    refine ⟨piece :: idle, congrArg (piece :: ·) hrest, fun p hp => ?_⟩
    rcases List.mem_cons.1 hp with rfl | hp
    · exact hidle
    · exact hall p hp
  | case5 piece rest hmore hkept => exact ⟨[], rfl, List.forall_mem_nil _⟩

theorem dropIdle_of_kept (first : Bool) (hlast : isIdle last = false) :
    dropIdle first (last :: ps) = last :: ps := by
  cases ps with
  | nil =>
    rw [dropIdle, if_neg]
    rw [isIdle, Bool.or_eq_false_iff] at hlast
    simp [hlast]
  | cons p ps => 
    rw [dropIdle, hlast, if_neg Bool.false_ne_true]
    exact List.cons_ne_nil p ps

theorem dropIdle_ne_nil (hlast : last ≠ "") : dropIdle true (ps ++ [last]) ≠ [] := by
  induction ps with
  | nil => simp [dropIdle, hlast]
  | cons p ps ih =>
    have hmore : ps ++ [last] = [] → False := List.append_ne_nil_of_right_ne_nil ps (by simp)
    rw [List.cons_append, dropIdle]
    · split
      · exact ih
      · exact List.cons_ne_nil _ _
    · exact hmore

/-- The pieces of the folder of a path, and what stands between them and the last piece. -/
theorem parent?_eq (hbody : body path = init ++ [last]) (hlast : isIdle last = false) :
    ∃ before idle, init = before ++ idle ∧ (∀ p ∈ idle, isIdle p = true) ∧
      parent? path = some (if isAbsolute path then "/" ++ ofPieces before else ofPieces before) ∧
      before = (dropIdle (!isAbsolute path) init.reverse).reverse := by
  obtain ⟨idle, hinit, hidle⟩ := exists_idle (!isAbsolute path) init.reverse
  refine ⟨_, idle.reverse, ?_, fun p hp => hidle p (List.mem_reverse.1 hp), ?_, rfl⟩
  · rw [← List.reverse_append, ← hinit, List.reverse_reverse]
  · have hback : dropIdle (!isAbsolute path) (body path).reverse = last :: init.reverse := by
      rw [hbody, List.reverse_append]
      exact dropIdle_of_kept _ hlast
    rw [body] at hback
    rw [parent?, splitLast?]
    dsimp only
    rw [hback]
    rfl

end Path

namespace FileSystem

variable {fs : FileSystem} {cwd here there place : Place} {path piece : String}
  {ps qs : List String}

def follow (fs : FileSystem) (here : Place) (ps : List String) : Except Obstacle Place :=
  ps.foldlM fs.enter here

theorem follow_append : fs.follow here (ps ++ qs) = .ok place ↔
    ∃ there, fs.follow here ps = .ok there ∧ fs.follow there qs = .ok place := by
  rw [follow, List.foldlM_append, Except.bind_eq_ok_iff]
  rfl

theorem follow_cons : fs.follow here (piece :: ps) = .ok place ↔
    ∃ there, fs.enter here piece = .ok there ∧ fs.follow there ps = .ok place := by
  rw [follow, List.foldlM_cons, Except.bind_eq_ok_iff]
  rfl

theorem follow_singleton : fs.follow here [piece] = fs.enter here piece := by
  rw [follow, List.foldlM_cons]
  exact bind_pure _

theorem isDirectoryAt_of_enter (h : fs.enter here piece = .ok there) :
    fs.isDirectoryAt here = true := by
  rw [enter] at h
  split at h
  · cases h
  · next hdirectory => simpa using hdirectory

theorem enter_idle (hidle : Path.isIdle piece = true) (h : fs.enter here piece = .ok there) :
    there = here := by
  have hdirectory := isDirectoryAt_of_enter h
  have hpiece : piece = "" ∨ piece = "." := by simpa [Path.isIdle] using hidle
  rw [enter, hdirectory, Bool.not_true, if_neg Bool.false_ne_true, if_pos hpiece] at h
  exact (Except.ok.inj h).symm

theorem follow_idle (hidle : ∀ p ∈ ps, Path.isIdle p = true)
    (h : fs.follow here ps = .ok there) : there = here := by
  induction ps generalizing here with
  | nil => exact (Except.ok.inj h).symm
  | cons p ps ih =>
    obtain ⟨next, hnext, hrest⟩ := follow_cons.1 h
    rw [List.forall_mem_cons] at hidle
    rw [ih hidle.2 hrest, enter_idle hidle.1 hnext]

theorem walk_eq (hne : path ≠ "") :
    fs.walk cwd path = fs.follow (if Path.isAbsolute path then [] else cwd) (Path.pieces path) := by
  rw [walk]
  split
  · next hnil => exact absurd (String.toList_inj.1 hnil) hne
  · next c cs hcons =>
    rw [Path.isAbsolute, hcons]
    by_cases hc : c = '/'
    · rw [if_pos hc, hc]
      rfl
    · rw [if_neg hc, if_neg (by simpa using hc)]
      rfl

theorem walk_of_isAbsolute (h : Path.isAbsolute path = true) (cwd cwd' : Place) :
    fs.walk cwd path = fs.walk cwd' path := by
  have hne : path ≠ "" := by
    rintro rfl
    cases h
  rw [walk_eq hne, walk_eq hne, h, if_pos rfl, if_pos rfl]

theorem follow_ofPieces (hps : ∀ p ∈ ps, '/' ∉ p.toList) (hdirectory : fs.isDirectoryAt here = true)
    (h : fs.follow here ps = .ok place) :
    fs.follow here (Path.pieces (Path.ofPieces ps)) = .ok place := by
  by_cases hnil : ps = []
  · obtain rfl := hnil
    obtain rfl := Except.ok.inj h
    have hempty : Path.pieces (Path.ofPieces []) = [""] := rfl
    rw [hempty, follow_singleton, enter, hdirectory]
    rfl
  · rw [Path.pieces_ofPieces hnil hps]
    exact h

theorem follow_of_append_idle (hidle : ∀ p ∈ qs, Path.isIdle p = true)
    (h : fs.follow here (ps ++ qs) = .ok place) : fs.follow here ps = .ok place := by
  obtain ⟨there, hfirst, hrest⟩ := follow_append.1 h
  rw [follow_idle hidle hrest]
  exact hfirst

theorem walk_parent_of_isAbsolute {init : List String} {last : String}
    (habsolute : Path.isAbsolute path = true) (hpieces : Path.pieces path = init ++ [last])
    (hkept : Path.isIdle last = false) (hinit : fs.follow [] init = .ok there) :
    ∃ parent, Path.parent? path = some parent ∧ fs.walk cwd parent = .ok there := by
  obtain ⟨rest, rfl⟩ := Path.exists_of_isAbsolute habsolute
  rw [Path.pieces_slash] at hpieces
  cases init with
  | nil => exact absurd (List.cons.inj hpieces).2 (Path.pieces_ne_nil rest)
  | cons p init =>
    obtain ⟨rfl, hrest⟩ := List.cons.inj hpieces
    have hbody : Path.body ("/" ++ rest) = init ++ [last] := by
      rw [Path.body, if_pos habsolute, Path.pieces_slash]
      exact hrest
    obtain ⟨before, idle, rfl, hidle, hparent, -⟩ := Path.parent?_eq hbody hkept
    rw [if_pos habsolute] at hparent
    have hseparate : ∀ p ∈ before, '/' ∉ p.toList := by
      intro p hp
      have hmem : p ∈ Path.pieces rest := by
        rw [hrest]
        exact List.mem_append_left _ (List.mem_append_left _ hp)
      exact Text.separator_not_mem hmem
    obtain ⟨root, hroot, hbefore⟩ := follow_cons.1 hinit
    have hdirectory := isDirectoryAt_of_enter hroot
    obtain rfl := enter_idle rfl hroot
    have hne : "/" ++ Path.ofPieces before ≠ "" := by
      intro hempty
      have hslash := Path.isAbsolute_slash (Path.ofPieces before)
      rw [hempty] at hslash
      cases hslash
    refine ⟨_, hparent, ?_⟩
    rw [walk_eq hne, Path.isAbsolute_slash, if_pos rfl, Path.pieces_slash, follow_cons]
    exact ⟨_, hroot, follow_ofPieces hseparate hdirectory (follow_of_append_idle hidle hbefore)⟩

theorem walk_parent_of_relative {init : List String} {last : String}
    (hrelative : Path.isAbsolute path = false) (hpieces : Path.pieces path = init ++ [last])
    (hkept : Path.isIdle last = false) (hnil : init ≠ [])
    (hinit : fs.follow cwd init = .ok there) :
    ∃ parent, Path.parent? path = some parent ∧ fs.walk cwd parent = .ok there := by
  have hbody : Path.body path = init ++ [last] := by
    rw [Path.body, hrelative, if_neg Bool.false_ne_true]
    exact hpieces
  obtain ⟨before, idle, hsplit, hidle, hparent, hbefore⟩ := Path.parent?_eq hbody hkept
  rw [hrelative, if_neg Bool.false_ne_true] at hparent
  have hstart : before <+: Path.pieces path := by
    rw [hpieces, hsplit, List.append_assoc]
    exact List.prefix_append _ _
  -- Only an absolute path starts with an empty piece.
  obtain ⟨first, more, rfl⟩ := List.exists_cons_of_ne_nil hnil
  have hfirst : first ≠ "" := by
    rintro rfl
    have habsolute := Path.isAbsolute_of_pieces hpieces (by simp)
    rw [hrelative] at habsolute
    cases habsolute
  have hbeforeNil : before ≠ [] := by
    rw [hbefore, hrelative, List.reverse_cons]
    exact fun h => Path.dropIdle_ne_nil hfirst (List.reverse_eq_nil_iff.1 h)
  have hback := Path.pieces_ofPieces hbeforeNil fun p hp =>
    Text.separator_not_mem (hstart.subset hp)
  have hne : Path.ofPieces before ≠ "" := by
    intro hempty
    rw [hempty] at hback
    obtain rfl : [""] = before := hback
    exact hfirst (List.cons.inj hsplit).1
  refine ⟨_, hparent, ?_⟩
  rw [walk_eq hne, Path.isAbsolute_ofPieces hrelative hstart, if_neg Bool.false_ne_true, hback]
  rw [hsplit] at hinit
  exact follow_of_append_idle hidle hinit

theorem exists_last_of_walk (h : fs.walk cwd path = .ok place)
    (hfile : fs.isDirectoryAt place = false) :
    ∃ init last there, Path.pieces path = init ++ [last] ∧ Path.isIdle last = false ∧
      fs.follow (if Path.isAbsolute path then [] else cwd) init = .ok there ∧
      fs.isDirectoryAt there = true := by
  have hne : path ≠ "" := by
    rintro rfl
    cases h
  obtain ⟨init, last, hpieces⟩ : ∃ init last, Path.pieces path = init ++ [last] :=
    ⟨_, _, (List.dropLast_concat_getLast (Path.pieces_ne_nil path)).symm⟩
  rw [walk_eq hne, hpieces] at h
  obtain ⟨there, hinit, hlast⟩ := follow_append.1 h
  rw [follow_singleton] at hlast
  have hdirectory := isDirectoryAt_of_enter hlast
  refine ⟨init, last, there, hpieces, ?_, hinit, hdirectory⟩
  rw [← Bool.not_eq_true]
  intro hidle
  rw [enter_idle hidle hlast, hdirectory] at hfile
  cases hfile

/-- A path with a slash that leads to no directory has a folder. -/
theorem walk_parent (hslash : '/' ∈ path.toList) (h : fs.walk cwd path = .ok place)
    (hfile : fs.isDirectoryAt place = false) :
    ∃ parent there, Path.parent? path = some parent ∧ fs.walk cwd parent = .ok there ∧
      fs.isDirectoryAt there = true := by
  obtain ⟨init, last, there, hpieces, hkept, hinit, hdirectory⟩ := exists_last_of_walk h hfile
  cases habsolute : Path.isAbsolute path with
  | true =>
    rw [habsolute, if_pos rfl] at hinit
    obtain ⟨parent, hparent, hwalk⟩ := walk_parent_of_isAbsolute habsolute hpieces hkept hinit
    exact ⟨parent, there, hparent, hwalk, hdirectory⟩
  | false =>
    rw [habsolute, if_neg Bool.false_ne_true] at hinit
    have hnil : init ≠ [] := by
      rintro rfl
      exact Path.slash_not_mem_of_pieces hpieces hslash
    obtain ⟨parent, hparent, hwalk⟩ := walk_parent_of_relative habsolute hpieces hkept hnil hinit
    exact ⟨parent, there, hparent, hwalk, hdirectory⟩

theorem parent?_of_bare (hbare : '/' ∉ path.toList) (h : fs.walk cwd path = .ok place)
    (hfile : fs.isDirectoryAt place = false) : Path.parent? path = some "" := by
  obtain ⟨init, last, there, hpieces, hkept, -⟩ := exists_last_of_walk h hfile
  have hrelative := Path.isAbsolute_of_bare hbare
  have hinit : init = [] := by
    rw [Path.pieces_of_bare hbare, ← List.nil_append [path]] at hpieces
    exact (List.append_inj_left' hpieces rfl).symm
  have hbody : Path.body path = init ++ [last] := by
    rw [Path.body, hrelative, if_neg Bool.false_ne_true]
    exact hpieces
  obtain ⟨before, idle, hsplit, -, hparent, -⟩ := Path.parent?_eq hbody hkept
  rw [hinit] at hsplit
  rw [hparent, (List.append_eq_nil_iff.1 hsplit.symm).1, hrelative]
  rfl

end FileSystem

end CoordinatorGateway
