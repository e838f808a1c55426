import CoordinatorGateway.Programs.Locator
import CoordinatorGateway.Proofs.Files.Walks

namespace CoordinatorGateway

namespace Locator

variable (l : Locator) (lookup : PathLookup) (fs : FileSystem) (cwd : Place) (role : Role)
  (name : String)

def candidates : List LocatedProgram :=
  l.explicit.toList.map (⟨·, .explicit⟩) ++
    (l.searchPath.bind fun searchPath => lookup searchPath name).toList.map (⟨·, .searchPath⟩) ++
    l.fixedCandidates name

/-- What is reported where no candidate may be run. The search path is not part of it. -/
def missing : MissingProgram :=
  ⟨role, name, l.explicit.toList ++ (l.fixedCandidates name).map LocatedProgram.path⟩

theorem find?_toList_map (path : Option String) (source : ProgramSource) (p : String → Bool) :
    (path.toList.map (LocatedProgram.mk · source)).find? (fun c => p c.path) =
      (path.filter p).map (LocatedProgram.mk · source) := by
  cases path with
  | none => rfl
  | some path =>
    cases hp : p path with
    | false => simp [Option.filter_some, hp]
    | true => simp [Option.filter_some, hp]

theorem locateWith_eq : l.locateWith lookup fs cwd role name =
    match (l.candidates lookup name).find? fun c => fs.isExecutable cwd c.path with
    | some found => .ok found
    | none => .error (l.missing role name) := by
  rw [candidates, List.find?_append, List.find?_append, find?_toList_map, find?_toList_map,
    locateWith, missing]
  dsimp only
  cases l.explicit.filter (fs.isExecutable cwd) with
  | some path => rfl
  | none =>
    cases (l.searchPath.bind fun searchPath => lookup searchPath name).filter
        (fs.isExecutable cwd) with
    | some path => rfl
    | none => rfl

theorem mayRun_of_locateWith {l : Locator} {lookup : PathLookup} {fs : FileSystem} {cwd : Place}
    {role : Role} {name : String} {found : LocatedProgram}
    (h : l.locateWith lookup fs cwd role name = .ok found) : fs.MayRun cwd found.path := by
  rw [locateWith_eq] at h
  split at h
  · next first hfirst =>
    obtain rfl := Except.ok.inj h
    have hexecutable := List.find?_some hfirst
    exact FileSystem.isExecutable_iff.1 hexecutable
  · cases h

end Locator

end CoordinatorGateway
