import CoordinatorGateway.Audit.Event
import CoordinatorGateway.Coordinator.Api
import CoordinatorGateway.Processes.Host
import CoordinatorGateway.RateLimit.Limiter
import CoordinatorGateway.Settings.Basic
import CoordinatorGateway.Supervisor.Tracking

namespace CoordinatorGateway

inductive Effect where
  | call (c : CoordinatorCall)
  | spawn (c : Child)
  /-- Also one that found no process, or could not be sent. -/
  | signal (pid : Nat) (s : Signal)
  | audit (e : AuditEvent)

/-- The state that a gateway works on. What it does that others can see is kept in the trace, in the
order in which it happened. -/
structure World (σ : Type) where
  coordinator : σ
  store : RateStore
  tracking : Tracking
  /-- The handles of all processes ever started. -/
  started : List Handle
  host : Host
  trace : List Effect
  /-- Nanoseconds on the clock of the rate limiter. -/
  now : Nat
  /-- The time of day, as it is shown. -/
  time : String
  /-- How many names have been made up so far. -/
  madeUp : Nat

/-- Made-up names for requests and workers that come without one. -/
structure NameSource where
  request : Nat → String
  worker : Nat → String

abbrev Act (σ : Type) := StateM (World σ)

/-- Steps on the world that may end in an error; what was done until then stays done. -/
abbrev Attempt (ε σ : Type) := ExceptT ε (Act σ)

namespace Attempt

variable {ε ε' σ α : Type}

def surely (step : Act σ α) : Attempt ε σ α := ExceptT.lift step

def check (result : Except ε α) : Attempt ε σ α := ExceptT.mk (pure result)

def mapError (f : ε → ε') (attempt : Attempt ε σ α) : Attempt ε' σ α :=
  ExceptT.mk do return (← attempt.run).mapError f

/-- Takes one more step where the attempt ends in an error, which remains the result. -/
def onError (attempt : Attempt ε σ α) (step : ε → Act σ Unit) : Attempt ε σ α :=
  ExceptT.mk do
    let result ← attempt.run
    if let .error e := result then step e
    return result

end Attempt

namespace World

variable {σ : Type}

def note (e : Effect) : Act σ Unit := modify fun w => { w with trace := w.trace ++ [e] }

/-- Records an event, unless the audit is switched off. -/
def record (enabled : Bool) (e : AuditEvent) : Act σ Unit :=
  if enabled then note (.audit e) else pure ()

def ask {α : Type} (c : CoordinatorCall) (answer : σ → Except Failure α × σ) :
    Attempt Failure σ α := ExceptT.mk do
  note (.call c)
  modifyGet fun w =>
    let (a, s) := answer w.coordinator
    (a, { w with coordinator := s })

def makeName (names : Nat → String) : Act σ String :=
  modifyGet fun w => (names w.madeUp, { w with madeUp := w.madeUp + 1 })

def track {α : Type} (step : Tracking → α × Tracking) : Act σ α :=
  modifyGet fun w =>
    let (a, t) := step w.tracking
    (a, { w with tracking := t })

/-- Makes known that the process of a handle has ended, if that is so and news, and clears the
handle. -/
def reapOne (host : Host) (t : Tracking) (h : Handle) : Tracking :=
  if t.hasExited h then t
  else match (host.child? h.pid).bind Child.exit with
    | some e => (t.publishExit h.generation e).clear h
    | none => t

def reap : Act σ Unit :=
  modify fun w => { w with tracking := w.started.foldl (reapOne w.host) w.tracking }

/-- Sends a signal. A child that ends by it has been reaped when the answer comes. -/
def signal (pid : Nat) (s : Signal) : Act σ (Except String Bool) := do
  note (.signal pid s)
  let answer ← modifyGet fun w =>
    let (answer, host) := w.host.signal pid s
    (answer, { w with host })
  reap
  return answer

def start (program : String) (args : List String) (directory : Option String) :
    Act σ (Except String Child) := do
  let result ← modifyGet fun w =>
    let (result, host) := w.host.start program args directory
    (result, { w with host })
  if let .ok c := result then note (.spawn c)
  return result

/-- A child ends by a signal that the gateway did not send, and is reaped. -/
def loseChild (pid : Nat) : Act σ Unit := do
  modify fun w => { w with host := w.host.endChild pid }
  reap

def isAlive (h : Handle) : Act σ Bool := do
  let w ← get
  return !w.tracking.hasExited h && w.host.isAlive h.pid

end World

end CoordinatorGateway
