import CoordinatorGateway.Launch.Dispatch
import CoordinatorGateway.Launch.Order

namespace CoordinatorGateway

structure LaunchedProof where
  jobId : String
  blockId : String
  deriving DecidableEq, Repr

def LaunchedProof.members (p : LaunchedProof) : List Json.Member :=
  [("job_id", .string p.jobId), ("block_id", .string p.blockId)]

structure Launcher where
  limiter : Limiter
  policy : OrderPolicy
  auditEnabled : Bool

namespace Launcher

def ofSettings (s : Settings) : Launcher :=
  ⟨⟨.ofMillis s.rateLimit.windowMs, s.rateLimit.maxRequests⟩,
    ⟨s.limits.maxCapacity, ⟨s.limits.inputRoots, none⟩⟩, s.auditEnabled⟩

variable {σ : Type}

def record (l : Launcher) (client : String) (name : String) (decision : Decision)
    (reason : Option String) (fields : List Json.Member) : Act σ Unit :=
  World.record l.auditEnabled ⟨name, some client, some decision, reason, fields⟩

def reject (l : Launcher) (client : String) (f : Failure) : Act σ Unit :=
  l.record client "admission.rejected" .rejected (some f.message) []

def observe (l : Launcher) (client : String) : Act σ (Except Rejection Unit) :=
  modifyGet fun w =>
    let (verdict, store) := l.limiter.observe w.store client w.now
    (verdict, { w with store })

/-- The order passes if the client has not reached its limit. -/
def throttle (l : Launcher) (client : String) (order : LaunchOrder) : Attempt Failure σ Unit := do
  let verdict ← Attempt.surely (l.observe client)
  (Attempt.check (verdict.mapError Rejection.failure)).onError fun f =>
    l.record client "admission.rate_limited" .rejected (some f.message)
      [("block_id", .string order.blockId)]

def dispatch (l : Launcher) (client : String) (order : LaunchOrder) (c : Coordinator σ) :
    Attempt Failure σ LaunchedProof := do
  let jobId ← ((order.dispatch c).onError fun refusal =>
    l.record client refusal.record.1 refusal.record.2 (some refusal.failure.message)
      [("block_id", .string order.blockId)]).mapError LaunchRefusal.failure
  Attempt.surely <| l.record client "launch.succeeded" .succeeded none
    [("block_id", .string order.blockId), ("job_id", .string jobId)]
  return ⟨jobId, order.blockId⟩

def launch (l : Launcher) (client : String) (request : LaunchRequest) (c : Coordinator σ) :
    Attempt Failure σ LaunchedProof := do
  let order ← (Attempt.check (request.order l.policy)).onError (l.reject client)
  l.throttle client order
  l.dispatch client order c

def launchBody (l : Launcher) (client : String) (body : Except Failure Bytes) (c : Coordinator σ) :
    Attempt Failure σ LaunchedProof := do
  let request ← (Attempt.check (body.bind LaunchRequest.read)).onError (l.reject client)
  l.launch client request c

end Launcher

end CoordinatorGateway
