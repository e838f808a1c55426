import CoordinatorGateway.Processes.Host
import CoordinatorGateway.Programs.Locator
import CoordinatorGateway.Registry

namespace CoordinatorGateway

structure Handle where
  role : Role
  /-- The id of a worker. -/
  id : Option String
  pid : Nat
  program : String
  startedAt : String
  capacity : Option Nat
  generation : Nat
  deriving DecidableEq, Repr

/-- The processes that are kept track of: one coordinator at most, and workers by their ids. Each
function here is one atomic step. -/
structure Tracking where
  coordinator : Option Handle
  workers : Registry Handle
  /-- The last generation given out. -/
  generation : Nat
  /-- The ends made known, by generation. -/
  exits : List (Nat × Exit)

namespace Tracking

def empty : Tracking := ⟨none, .empty, 0, []⟩

def exit? (t : Tracking) (h : Handle) : Option Exit := t.exits.lookup h.generation

def hasExited (t : Tracking) (h : Handle) : Bool := (t.exit? h).isSome

def nextGeneration (t : Tracking) : Nat × Tracking :=
  (t.generation + 1, { t with generation := t.generation + 1 })

/-- The handle is kept unless the slot holds one whose process has not ended; that one is the
answer then. -/
def installCoordinator (t : Tracking) (h : Handle) : Option Handle × Tracking :=
  match t.coordinator with
  | some existing =>
    if t.hasExited existing then (none, { t with coordinator := some h }) else (some existing, t)
  | none => (none, { t with coordinator := some h })

def takeCoordinator (t : Tracking) : Option Handle × Tracking :=
  (t.coordinator, { t with coordinator := none })

def clearCoordinatorIf (t : Tracking) (generation : Nat) : Tracking :=
  match t.coordinator with
  | some h => if h.generation = generation then { t with coordinator := none } else t
  | none => t

def worker? (t : Tracking) (id : String) : Option Handle := t.workers.get? id

def workerHandles (t : Tracking) : List Handle :=
  t.workers.values.mergeSort fun a b => decide (a.id.getD "" ≤ b.id.getD "")

def installWorker (t : Tracking) (id : String) (h : Handle) : Option Handle × Tracking :=
  match t.workers.get? id with
  | some existing =>
    if t.hasExited existing then (none, { t with workers := t.workers.put id h })
    else (some existing, t)
  | none => (none, { t with workers := t.workers.put id h })

def removeWorker (t : Tracking) (id : String) : Option Handle × Tracking :=
  (t.workers.get? id, { t with workers := t.workers.erase id })

def removeWorkerIf (t : Tracking) (id : String) (generation : Nat) : Tracking :=
  match t.workers.get? id with
  | some h => if h.generation = generation then { t with workers := t.workers.erase id } else t
  | none => t

def clearWorkers (t : Tracking) : List Handle × Tracking :=
  (t.workers.values, { t with workers := .empty })

def publishExit (t : Tracking) (generation : Nat) (e : Exit) : Tracking :=
  { t with exits := (generation, e) :: t.exits }

/-- Clears the handle of a process, if it is still in its place. -/
def clear (t : Tracking) (h : Handle) : Tracking :=
  match h.id with
  | some id => t.removeWorkerIf id h.generation
  | none => t.clearCoordinatorIf h.generation

end Tracking

end CoordinatorGateway
