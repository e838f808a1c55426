import CoordinatorGateway.Text.Basic
import CoordinatorGateway.Unicode.Classes

namespace CoordinatorGateway

inductive Signal where
  /-- It asks a process to end. -/
  | graceful
  /-- It ends a process. -/
  | forceful
  deriving DecidableEq, Repr

def Signal.label : Signal → String
  | .graceful => "graceful"
  | .forceful => "forceful"

/-- What follows the last slash or backslash, without an ending `.exe`. -/
def executableName (path : String) : String :=
  let base := (path.toList.reverse.takeWhile fun c => c != '/' && c != '\\').reverse
  String.ofList ((Text.stripEnd? ['.', 'e', 'x', 'e'] base).getD base)

def shortNameLength : Nat := 15

def shortName (name : String) : Bytes := (Bytes.ofText name).take shortNameLength

structure ListedProcess where
  pid : Nat
  argv : List String
  /-- The start of the name of its executable, as far as it is kept. -/
  shortName : Bytes
  alive : Bool
  deriving DecidableEq, Repr

namespace ListedProcess

/-- The short name as it is read: a text without blanks at its end. -/
def keptName? (p : ListedProcess) : Option String := (Bytes.text? p.shortName).map Text.trimEnd

/-- The name is that of the program in the command line, or the process has its short name. -/
def answersTo (p : ListedProcess) (name : String) : Bool :=
  (match p.argv.head? with
    | some program => !program.isEmpty && executableName program == name
    | none => false) ||
  match p.keptName? with
  | some kept => Bytes.ofText kept == CoordinatorGateway.shortName name
  | none => false

end ListedProcess

structure ProcessTable where
  processes : List ListedProcess
  /-- The process that looks. -/
  own : Nat
  deriving Repr

namespace ProcessTable

def insertPid (pid : Nat) : List Nat → List Nat
  | [] => [pid]
  | p :: ps =>
    if pid < p then pid :: p :: ps
    else if pid = p then p :: ps
    else p :: insertPid pid ps

/-- The other living processes of the name, in ascending order. -/
def find (t : ProcessTable) (name : String) : List Nat :=
  ((t.processes.filter fun p => p.alive && p.pid != t.own && p.answersTo name).map
    ListedProcess.pid).foldr insertPid []

def process? (t : ProcessTable) (pid : Nat) : Option ListedProcess :=
  t.processes.find? fun p => p.pid == pid

def isAlive (t : ProcessTable) (pid : Nat) : Bool :=
  pid != 0 && t.processes.any fun p => p.pid == pid && p.alive

def maxPid : Nat := 2147483647

def takes (t : ProcessTable) (pid : Nat) (_ : Signal) : Bool :=
  pid != 0 && pid ≤ maxPid && (t.process? pid).isSome

def commandLine (t : ProcessTable) (pid : Nat) : Option (List String) :=
  if pid = 0 then none
  else match t.process? pid with
    | some p => if p.argv.isEmpty then none else some (p.argv.filter fun arg => !arg.isEmpty)
    | none => none

end ProcessTable

end CoordinatorGateway
