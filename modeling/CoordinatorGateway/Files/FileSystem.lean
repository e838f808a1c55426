import CoordinatorGateway.Text.Basic

namespace CoordinatorGateway

/-- What happens when a file is run. -/
inductive Program where
  /-- It runs until it gets a signal. -/
  | runs
  /-- It runs and ignores the graceful signal. -/
  | stubborn
  | exits (code : Nat)
  /-- A signal ends it at once. -/
  | aborts
  /-- What it names as its interpreter does not exist. -/
  | orphan
  /-- It is no program. -/
  | none
  deriving DecidableEq, Repr

structure File where
  text : String
  executable : Bool
  program : Program
  deriving DecidableEq, Repr

inductive Node where
  | directory
  | file (f : File)
  deriving DecidableEq, Repr

/-- The names that lead from the root to a node. -/
abbrev Place := List String

/-- Directories and files without links. -/
structure FileSystem where
  entries : List (Place × Node)
  deriving Repr

namespace FileSystem

def empty : FileSystem := ⟨[]⟩

def node? (fs : FileSystem) (place : Place) : Option Node :=
  if place.isEmpty then some .directory else fs.entries.lookup place

def isDirectoryAt (fs : FileSystem) (place : Place) : Bool :=
  match fs.node? place with
  | some .directory => true
  | _ => false

def remove (fs : FileSystem) (place : Place) : FileSystem :=
  ⟨fs.entries.filter fun e => !place.isPrefixOf e.1⟩

def makeDirectory (fs : FileSystem) (place : Place) : FileSystem :=
  if (fs.node? place).isSome then fs else ⟨fs.entries ++ [(place, .directory)]⟩

/-- The directories on the way to the place, the outermost first. -/
def makeParents (fs : FileSystem) (place : Place) : FileSystem :=
  (List.range place.length).foldl (fun fs n => fs.makeDirectory (place.take n)) fs

def put (fs : FileSystem) (place : Place) (f : File) : FileSystem :=
  let fs := (fs.remove place).makeParents place
  ⟨fs.entries ++ [(place, .file f)]⟩

inductive Obstacle where
  | missing
  /-- It goes on behind something that is no directory. -/
  | notDirectory
  deriving DecidableEq, Repr

def enter (fs : FileSystem) (here : Place) (piece : String) : Except Obstacle Place :=
  if !fs.isDirectoryAt here then .error .notDirectory
  else if piece = "" ∨ piece = "." then .ok here
  else if piece = ".." then .ok here.dropLast
  else if (fs.node? (here ++ [piece])).isSome then .ok (here ++ [piece])
  else .error .missing

/-- The place that a path leads to, relative paths being taken from `cwd`. -/
def walk (fs : FileSystem) (cwd : Place) (path : String) : Except Obstacle Place :=
  match path.toList with
  | [] => .error .missing
  | c :: _ => (Text.splitAt '/' path).foldlM fs.enter (if c = '/' then [] else cwd)

def place? (fs : FileSystem) (cwd : Place) (path : String) : Option Place :=
  (fs.walk cwd path).toOption

def find? (fs : FileSystem) (cwd : Place) (path : String) : Option Node :=
  (fs.place? cwd path).bind fs.node?

def file? (fs : FileSystem) (cwd : Place) (path : String) : Option File :=
  match fs.find? cwd path with
  | some (.file f) => some f
  | _ => none

def isFile (fs : FileSystem) (cwd : Place) (path : String) : Bool := (fs.file? cwd path).isSome

def isDirectory (fs : FileSystem) (cwd : Place) (path : String) : Bool :=
  match fs.find? cwd path with
  | some .directory => true
  | _ => false

def isExecutable (fs : FileSystem) (cwd : Place) (path : String) : Bool :=
  match fs.file? cwd path with
  | some f => f.executable
  | none => false

end FileSystem

def Place.path (place : Place) : String := "/" ++ "/".intercalate place

end CoordinatorGateway
