import CoordinatorGateway.Files.FileSystem
import CoordinatorGateway.Files.Path
import CoordinatorGateway.Unicode.Classes

namespace CoordinatorGateway

inductive Role where
  | coordinator
  | worker
  deriving DecidableEq, Repr

namespace Role

def label : Role → String
  | .coordinator => "coordinator"
  | .worker => "worker"

def overrideVariable : Role → String
  | .coordinator => "COORDINATOR_BIN"
  | .worker => "WORKER_BIN"

end Role

inductive ProgramSource where
  | explicit
  | searchPath
  | installed
  | built
  deriving DecidableEq, Repr

def ProgramSource.label : ProgramSource → String
  | .explicit => "override"
  | .searchPath => "search_path"
  | .installed => "install_dir"
  | .built => "build_output"

structure LocatedProgram where
  path : String
  source : ProgramSource
  deriving DecidableEq, Repr

/-- A program that was not found, and where it was looked for besides the search path. -/
structure MissingProgram where
  role : Role
  name : String
  searched : List String
  deriving DecidableEq, Repr

namespace MissingProgram

def buildCommand (m : MissingProgram) : String := "cargo build --release --bin " ++ m.name

def message (m : MissingProgram) : String :=
  "Could not find the " ++ m.role.label ++ " binary '" ++ m.name ++ "'. Build it with `" ++
    m.buildCommand ++ "` or set " ++ m.role.overrideVariable ++ " to its path."

end MissingProgram

structure Locator where
  explicit : Option String := none
  /-- Directories between colons. -/
  searchPath : Option String := none
  home : Option String := none
  systemDirectories : List String := []
  repoRoot : Option String := none
  deriving DecidableEq, Repr

namespace Locator

def homeDirectories : List String := [".cargo/bin", ".local/bin", "bin"]

def profiles : List String := ["release", "debug"]

/-- The program files that the search path leads to. A name with a slash is not searched, but
taken from the current directory. -/
def searchCandidates (searchPath name : String) (cwd : Place) : List String :=
  if name.toList.contains '/' then [Path.join cwd.path name]
  else (Text.splitAt ':' searchPath).map fun directory => Path.join directory name

abbrev PathLookup := (searchPath name : String) → Option String

def firstOnPath (fs : FileSystem) (cwd : Place) : PathLookup := fun searchPath name =>
  (searchCandidates searchPath name cwd).find? (fs.isExecutable cwd)

def fixedCandidates (l : Locator) (name : String) : List LocatedProgram :=
  (l.home.toList.flatMap fun home => homeDirectories.map fun directory =>
    ⟨Path.join (Path.join home directory) name, .installed⟩) ++
  (l.systemDirectories.map fun directory => ⟨Path.join directory name, .installed⟩) ++
  (l.repoRoot.toList.flatMap fun root => profiles.map fun profile =>
    ⟨Path.join (Path.join (Path.join root "target") profile) name, .built⟩)

/-- What the lookup finds on the search path is taken only if it may be run. -/
def locateWith (l : Locator) (lookup : PathLookup) (fs : FileSystem) (cwd : Place) (role : Role)
    (name : String) : Except MissingProgram LocatedProgram :=
  let onPath := l.searchPath.bind fun searchPath => lookup searchPath name
  match l.explicit.filter (fs.isExecutable cwd) with
  | some path => .ok ⟨path, .explicit⟩
  | none =>
    match onPath.filter (fs.isExecutable cwd) with
    | some path => .ok ⟨path, .searchPath⟩
    | none =>
      let candidates := l.fixedCandidates name
      match candidates.find? fun c => fs.isExecutable cwd c.path with
      | some found => .ok found
      | none => .error ⟨role, name, l.explicit.toList ++ candidates.map LocatedProgram.path⟩

def locate (l : Locator) (fs : FileSystem) (cwd : Place) (role : Role) (name : String) :
    Except MissingProgram LocatedProgram :=
  l.locateWith (firstOnPath fs cwd) fs cwd role name

end Locator

def systemDirectories : List String := ["/usr/local/bin", "/usr/bin", "/opt/homebrew/bin"]

def declaresWorkspace (manifest : String) : Bool :=
  (Text.splitAt '\n' manifest).any fun line => Text.trim line == "[workspace]"

/-- The nearest directory from `start` upwards whose manifest declares a workspace. -/
def repoRoot? (fs : FileSystem) (cwd : Place) (start : String) : Option String :=
  (Path.ancestors start).find? fun directory =>
    match fs.file? cwd (Path.join directory "Cargo.toml") with
    | some manifest => declaresWorkspace manifest.text
    | none => false

end CoordinatorGateway
