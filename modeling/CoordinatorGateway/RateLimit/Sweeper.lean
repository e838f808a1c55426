import CoordinatorGateway.RateLimit.Limiter

namespace CoordinatorGateway

/-- The periodic removal of closed windows. The channel that tells it to stop holds one message:
what is sent takes the place of what the sweeper has not seen yet. -/
inductive Sweeper where
  /-- The time since the timer was started, and the message that has not been seen. -/
  | running (elapsed : Duration) (unseen : Option Bool)
  | ended
  deriving DecidableEq, Repr

namespace Sweeper

inductive Event where
  /-- This much time passes on the timer. Time passes only when the sweeper has nothing left to do,
  so it sees what has been sent before, and what falls due is done, at the very end as well. -/
  | wait (time : Duration)
  /-- A message is sent on the shutdown channel. -/
  | shutdown (stop : Bool)
  deriving DecidableEq, Repr

def start : Sweeper := .running ⟨0⟩ none

def stopped : Sweeper → Bool
  | .running _ _ => false
  | .ended => true

def send (stop : Bool) : Sweeper → Sweeper
  | .running elapsed _ => .running elapsed (some stop)
  | .ended => .ended

/-- The sweeper has its turn. It sees the message, and ends or starts the timer anew. -/
def look : Sweeper → Sweeper
  | .running _ (some true) => .ended
  | .running _ (some false) => .running ⟨0⟩ none
  | s => s

/-- The timer starts anew whenever an interval is over. -/
def pass (interval time : Duration) : Sweeper → Sweeper
  | .running elapsed unseen =>
    .running ⟨(elapsed.nanos + time.nanos) % interval.nanos⟩ unseen
  | .ended => .ended

/-- At least one whole interval ends in this time. -/
def expires (interval time : Duration) : Sweeper → Bool
  | .running elapsed _ => interval.nanos ≤ elapsed.nanos + time.nanos
  | .ended => false

/-- The sweeper and the store after an event, the windows being judged by the clock `now`. -/
def step (interval : Duration) (now : Nat) (s : Sweeper × RateStore) :
    Event → Sweeper × RateStore
  | .wait time =>
    (s.1.look.pass interval time, if s.1.look.expires interval time then s.2.sweep now else s.2)
  | .shutdown stop => (s.1.send stop, s.2)

/-- An event, after which the sweeper has its turn. -/
def run (interval : Duration) (now : Nat) (s : Sweeper × RateStore) (e : Event) :
    Sweeper × RateStore :=
  (step interval now s e).map look id

end Sweeper

end CoordinatorGateway
