import CoordinatorGateway.Failure
import CoordinatorGateway.Registry

namespace CoordinatorGateway

/-- The requests counted so far, refused ones included, and when the window ends. -/
structure Window where
  count : Nat
  resetAt : Nat
  deriving DecidableEq, Repr

abbrev RateStore := Registry Window

structure Rejection where
  limit : Nat
  window : Duration
  retryAfter : Duration
  deriving DecidableEq, Repr

def Rejection.failure (r : Rejection) : Failure := .rateLimited r.limit r.window r.retryAfter

/-- Admission by fixed windows, each opened by the first request in it. Instants are nanoseconds
since some start. -/
structure Limiter where
  window : Duration
  maxRequests : Nat
  deriving DecidableEq, Repr

namespace Limiter

def maxCount : Nat := 4294967295

def fresh (l : Limiter) (now : Nat) : Window := ⟨0, now + l.window.nanos⟩

/-- The window that a request falls into: the open one, or a new one. -/
def current (l : Limiter) (now : Nat) : Option Window → Window
  | some w => if now < w.resetAt then w else l.fresh now
  | none => l.fresh now

def counted (l : Limiter) (now : Nat) (w : Option Window) : Window :=
  ⟨min ((l.current now w).count + 1) maxCount, (l.current now w).resetAt⟩

def verdict (l : Limiter) (now : Nat) (w : Window) : Except Rejection Unit :=
  if l.maxRequests < w.count then .error ⟨l.maxRequests, l.window, ⟨w.resetAt - now⟩⟩ else .ok ()

/-- Counts a request and says whether it is let through. -/
def observe (l : Limiter) (store : RateStore) (key : String) (now : Nat) :
    Except Rejection Unit × RateStore :=
  let w := l.counted now (store.get? key)
  (l.verdict now w, store.put key w)

end Limiter

/-- Only the windows that are still open. -/
def RateStore.sweep (store : RateStore) (now : Nat) : RateStore :=
  store.filter fun _ w => decide (now < w.resetAt)

end CoordinatorGateway
