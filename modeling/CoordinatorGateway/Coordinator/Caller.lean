import CoordinatorGateway.Coordinator.Status
import CoordinatorGateway.Duration

namespace CoordinatorGateway

inductive CallState where
  | pending
  | resolved
  | rejected
  | timedOut
  deriving DecidableEq, Repr

namespace CallState

def label : CallState → String
  | .pending => "pending"
  | .resolved => "resolved"
  | .rejected => "rejected"
  | .timedOut => "timed_out"

def isSettled (s : CallState) : Bool := s != .pending

/-- Whether the outcome settles the call, and the state after it. -/
def settle (s outcome : CallState) : Bool × CallState :=
  if s.isSettled || !outcome.isSettled then (false, s) else (true, outcome)

end CallState

/-- What the coordinator does about a call. -/
inductive Reply (α : Type) where
  | never
  | atOnce (result : Except Status α)
  | after (delay : Duration) (result : Except Status α)

structure Call (α : Type) where
  method : String
  timeout : Duration
  reply : Reply α

inductive Outcome (α : Type) where
  | resolved (value : α)
  | rejected (status : Status)
  | timedOut

namespace Outcome

variable {α : Type}

def ofResult : Except Status α → Outcome α
  | .ok value => .resolved value
  | .error status => .rejected status

def state : Outcome α → CallState
  | .resolved _ => .resolved
  | .rejected _ => .rejected
  | .timedOut => .timedOut

end Outcome

namespace Call

variable {α : Type}

def outcome (c : Call α) : Outcome α :=
  match c.reply with
  | .never => .timedOut
  | .atOnce result => .ofResult result
  | .after delay result =>
    if delay.nanos ≤ c.timeout.nanos then .ofResult result else .timedOut

/-- The instant at which the call ends, counted from its start, unless it ends at once. -/
def duration? (c : Call α) : Option Nat :=
  match c.reply with
  | .never => some c.timeout.nanos
  | .atOnce _ => none
  | .after delay _ => some (min delay.nanos c.timeout.nanos)

def result (c : Call α) : Except Failure α :=
  match c.outcome with
  | .resolved value => .ok value
  | .rejected status => .error (status.failure c.method c.timeout)
  | .timedOut => .error (.timeout c.method c.timeout)

end Call

/-- The numbers of calls under way, and of calls that ran into their limits. -/
structure Caller where
  inFlight : Nat
  timeouts : Nat
  deriving DecidableEq, Repr

inductive CallEvent where
  | start (place : Nat)
  | finish (place : Nat) (state : CallState)
  deriving DecidableEq, Repr

def Caller.step (c : Caller) : CallEvent → Caller
  | .start _ => { c with inFlight := c.inFlight + 1 }
  | .finish _ state =>
    ⟨c.inFlight - 1, if state = .timedOut then c.timeouts + 1 else c.timeouts⟩

namespace Batch

variable {α : Type}

def startEvents (place : Nat) (c : Call α) : List CallEvent :=
  match c.duration? with
  | none => [.start place, .finish place c.outcome.state]
  | some _ => [.start place]

/-- The calls that do not end at once, with their places and the instants at which they end. -/
def timed (calls : List (Call α)) : List (Nat × Nat × Call α) :=
  calls.zipIdx.filterMap fun (c, place) => c.duration?.map fun t => (t, place, c)

/-- The events of calls that start together, in the order in which they happen: the calls start
one by one, some end right then, and the others end in the order of their instants. -/
def events (calls : List (Call α)) : List CallEvent :=
  (calls.zipIdx.flatMap fun (c, place) => startEvents place c) ++
    ((timed calls).mergeSort fun a b => decide (a.1 ≤ b.1)).map
      fun (_, place, c) => .finish place c.outcome.state

/-- A call that has ended: its place in the batch, and the calls under way right after it. -/
structure Finish where
  place : Nat
  inFlight : Nat
  deriving DecidableEq, Repr

def run (caller : Caller) : List CallEvent → Caller × List Finish
  | [] => (caller, [])
  | .start place :: rest => run (caller.step (.start place)) rest
  | .finish place state :: rest =>
    let caller := caller.step (.finish place state)
    let (last, finished) := run caller rest
    (last, ⟨place, caller.inFlight⟩ :: finished)

end Batch

end CoordinatorGateway
