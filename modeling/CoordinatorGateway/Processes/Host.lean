import CoordinatorGateway.Files.FileSystem
import CoordinatorGateway.Files.Path
import CoordinatorGateway.Processes.Table

namespace CoordinatorGateway

structure Exit where
  code : Option Nat
  deriving DecidableEq, Repr

/-- Processes that the gateway did not start, and how they take to being listed and signalled. -/
structure Outsiders where
  named : List (String × List Nat) := []
  /-- The command lines that can be read. -/
  argv : List (Nat × List String) := []
  /-- They ignore the graceful signal. -/
  stubborn : List Nat := []
  /-- They are listed, but no signal finds them. -/
  gone : List Nat := []
  failFind : Option String := none
  failArgv : Option String := none
  /-- No signal can be sent to these. -/
  failTerminate : List (Nat × String) := []
  /-- The forceful signal cannot be sent to these. -/
  failKill : List (Nat × String) := []
  deriving Repr

namespace Outsiders

def has (o : Outsiders) (pid : Nat) : Bool := o.named.any fun e => e.2.contains pid

def remove (o : Outsiders) (pid : Nat) : Outsiders :=
  { o with named := o.named.map fun (name, pids) => (name, pids.filter (· != pid)) }

end Outsiders

structure Child where
  pid : Nat
  /-- The file name of its executable. -/
  fileName : String
  argv : List String
  directory : Place
  ignoresStop : Bool
  /-- None while it runs. -/
  exit : Option Exit
  deriving DecidableEq, Repr

namespace Child

def isRunning (c : Child) : Bool := c.exit.isNone

def answersTo (c : Child) (name : String) : Bool :=
  executableName c.fileName == name || shortName c.fileName == shortName name

def dies (c : Child) : Child := if c.isRunning then { c with exit := some ⟨none⟩ } else c

end Child

structure Host where
  files : FileSystem
  /-- The gateway's own directory. -/
  directory : Place
  searchPath : String
  outsiders : Outsiders
  children : List Child
  deriving Repr

namespace Host

/-- Children are numbered from here on. -/
def firstPid : Nat := 7000001

def child? (h : Host) (pid : Nat) : Option Child := h.children.find? fun c => c.pid == pid

def find (h : Host) (name : String) : Except String (List Nat) :=
  match h.outsiders.failFind with
  | some e => .error e
  | none => .ok ((h.outsiders.named.lookup name).getD [] ++
      (h.children.filter fun c => c.isRunning && c.answersTo name).map Child.pid)

def isAlive (h : Host) (pid : Nat) : Bool :=
  (h.children.any fun c => c.pid == pid && c.isRunning) || h.outsiders.has pid

def commandLine (h : Host) (pid : Nat) : Except String (Option (List String)) :=
  match h.outsiders.failArgv with
  | some e => .error e
  | none =>
    match (h.child? pid).filter Child.isRunning with
    | some c => .ok (some c.argv)
    | none => .ok (h.outsiders.argv.lookup pid)

def endChild (h : Host) (pid : Nat) : Host :=
  { h with children := h.children.map fun c => if c.pid == pid then c.dies else c }

def refusal? (h : Host) (pid : Nat) (s : Signal) : Option String :=
  match h.outsiders.failTerminate.lookup pid with
  | some e => some e
  | none => if s = .forceful then h.outsiders.failKill.lookup pid else none

/-- Sends a signal. The answer says whether there was a process to get it. -/
def signal (h : Host) (pid : Nat) (s : Signal) : Except String Bool × Host :=
  match h.refusal? pid s with
  | some e => (.error e, h)
  | none =>
    if h.outsiders.gone.contains pid then (.ok false, h)
    else match (h.child? pid).filter Child.isRunning with
      | some c => (.ok true, if s = .graceful ∧ c.ignoresStop then h else h.endChild pid)
      | none =>
        if h.outsiders.has pid then
          (.ok true, if s = .graceful ∧ h.outsiders.stubborn.contains pid then h
            else { h with outsiders := h.outsiders.remove pid })
        else (.ok false, h)

def missingText : String := "No such file or directory (os error 2)"

def deniedText : String := "Permission denied (os error 13)"

def notDirectoryText : String := "Not a directory (os error 20)"

def notProgramText : String := "Exec format error (os error 8)"

def zeroByteText : String := "nul byte found in provided data"

def obstacleText : FileSystem.Obstacle → String
  | .missing => missingText
  | .notDirectory => notDirectoryText

def startDirectory (h : Host) : Option String → Except String Place
  | none => .ok h.directory
  | some path => do
    let place ← (h.files.walk h.directory path).mapError obstacleText
    if h.files.isDirectoryAt place then return place else throw notDirectoryText

/-- The program file that a path leads to from the child's directory. -/
def programFileAt (h : Host) (directory : Place) (path : String) : Except String File := do
  let place ← (h.files.walk directory path).mapError obstacleText
  match h.files.node? place with
  | some (.file f) => if f.executable then return f else throw deniedText
  | _ => throw deniedText

/-- The first program file among the paths. If there is none, a file that may not be run is
reported before one that is missing, and of these the last. -/
def firstProgramFile (h : Host) (directory : Place) (fault : String) :
    List String → Except String (String × File)
  | [] => .error fault
  | path :: paths =>
    match h.programFileAt directory path with
    | .ok f => .ok (path, f)
    | .error e => firstProgramFile h directory (if fault = deniedText then fault else e) paths

/-- A program without a slash is looked for on the search path, from the child's directory. -/
def programFile (h : Host) (directory : Place) (program : String) : Except String (String × File) :=
  h.firstProgramFile directory missingText <|
    if program.toList.contains '/' then [program]
    else (Text.splitAt ':' h.searchPath).map fun d => Path.join d program

def hasZeroByte (s : String) : Bool := s.toList.any fun c => c.toNat == 0

/-- How a program behaves that has just been started: whether it ignores the graceful signal, and
how it has ended, if it has. -/
def startState : Program → Except String (Bool × Option Exit)
  | .runs => .ok (false, none)
  | .stubborn => .ok (true, none)
  | .exits code => .ok (false, some ⟨some (code % 256)⟩)
  | .aborts => .ok (false, some ⟨none⟩)
  | .orphan => .error missingText
  | .none => .error notProgramText

/-- The child that a program becomes, the program being named relative to the directory in which
the child starts. -/
def newChild (h : Host) (program : String) (args : List String) (directory : Option String) :
    Except String Child := do
  if (program :: directory.toList ++ args).any hasZeroByte then throw zeroByteText
  let place ← h.startDirectory directory
  let (path, file) ← h.programFile place program
  let (ignoresStop, exit) ← startState file.program
  return ⟨firstPid + h.children.length, (Path.fileName? path).getD path, program :: args, place,
    ignoresStop, exit⟩

def start (h : Host) (program : String) (args : List String) (directory : Option String) :
    Except String Child × Host :=
  match h.newChild program args directory with
  | .ok c => (.ok c, { h with children := h.children ++ [c] })
  | .error e => (.error e, h)

end Host

end CoordinatorGateway
