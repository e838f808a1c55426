import CoordinatorGateway.Proofs.Files.Walks
import CoordinatorGateway.Proofs.Supervisor.Runs

namespace CoordinatorGateway.Host

variable {h : Host} {directory place : Place} {program path : String} {f : File}
  {args : List String} {folder : Option String}

theorem programFileAt_eq_ok_iff :
    h.programFileAt directory path = .ok f ↔ ∃ place, h.files.MayRunAt directory path place f := by
  simp only [programFileAt, Except.bind_eq_ok_iff, Except.mapError_eq_ok_iff]
  refine exists_congr fun place => ⟨?_, ?_⟩
  · rintro ⟨hleads, hprogram⟩
    split at hprogram
    · next g hholds =>
      split at hprogram
      · next hexecutable =>
        obtain rfl := Except.ok.inj hprogram
        exact ⟨hleads, hholds, hexecutable⟩
      · cases hprogram
    · cases hprogram
  · rintro ⟨hleads, hholds, hexecutable⟩
    refine ⟨hleads, ?_⟩
    rw [hholds]
    exact if_pos hexecutable

/-- What the program's name leads to from the directory is the file at the place. -/
def Executes (h : Host) (directory : Place) (program : String) (place : Place) : Prop :=
  ∃ path f, h.programFile directory program = .ok (path, f) ∧
    h.files.MayRunAt directory path place f

theorem executes_iff_of_slash (hslash : '/' ∈ program.toList) :
    h.Executes directory program place ↔ ∃ f, h.files.MayRunAt directory program place f := by
  have hpath : program.toList.contains '/' = true := List.contains_iff_mem.2 hslash
  rw [Executes, programFile, if_pos hpath]
  constructor
  · rintro ⟨path, f, hfound, hruns⟩
    rw [firstProgramFile] at hfound
    split at hfound
    · obtain ⟨rfl, rfl⟩ := Prod.mk.inj (Except.ok.inj hfound)
      exact ⟨_, hruns⟩
    · cases hfound
  · rintro ⟨f, hruns⟩
    refine ⟨program, f, ?_, hruns⟩
    rw [firstProgramFile, programFileAt_eq_ok_iff.2 ⟨place, hruns⟩]

def HoldsProgram (h : Host) (place : Place) : Prop :=
  ∃ f state, h.files.node? place = some (.file f) ∧ startState f.program = .ok state

/-- A child runs the program at a place if its directory is there, the name leads to the place from
there, and no text has a zero byte. -/
theorem exists_newChild_iff (hprogram : h.HoldsProgram place) :
    (∃ c, h.newChild program args folder = .ok c ∧ h.Executes c.directory program place) ↔
      (program :: folder.toList ++ args).any hasZeroByte = false ∧
        ∃ directory, h.startDirectory folder = .ok directory ∧
          h.Executes directory program place := by
  constructor
  · rintro ⟨c, hchild, hruns⟩
    obtain ⟨hclean, directory, hdirectory, _, -, _, -, rfl⟩ := newChild_eq_ok_iff.1 hchild
    exact ⟨hclean, directory, hdirectory, hruns⟩
  · rintro ⟨hclean, directory, hdirectory, path, f, hfound, hruns⟩
    obtain ⟨g, state, hholds, hstate⟩ := hprogram
    obtain rfl : f = g := by
      have hsame := hruns.holds.symm.trans hholds
      exact Node.file.inj (Option.some.inj hsame)
    exact ⟨_, newChild_eq_ok_iff.2
      ⟨hclean, directory, hdirectory, (path, f), hfound, state, hstate, rfl⟩,
      path, f, hfound, hruns⟩

theorem startDirectory_eq_ok_iff :
    h.startDirectory (some path) = .ok place ↔
      h.files.walk h.directory path = .ok place ∧ h.files.isDirectoryAt place = true := by
  simp only [startDirectory, Except.bind_eq_ok_iff, Except.mapError_eq_ok_iff]
  constructor
  · rintro ⟨there, hwalk, hend⟩
    split at hend
    · next hdirectory =>
      obtain rfl := Except.ok.inj hend
      exact ⟨hwalk, hdirectory⟩
    · cases hend
  · rintro ⟨hwalk, hdirectory⟩
    exact ⟨place, hwalk, if_pos hdirectory⟩

end CoordinatorGateway.Host
