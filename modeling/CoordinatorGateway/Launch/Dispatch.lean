import CoordinatorGateway.Gateway.World

namespace CoordinatorGateway

inductive LaunchRefusal where
  | blockOccupied (blockId jobId : String)
  | noWorkers
  | allBusy (workers : Nat)
  | noJobId
  | failed (f : Failure)
  deriving DecidableEq, Repr

namespace LaunchRefusal

def failure : LaunchRefusal → Failure
  | .blockOccupied blockId jobId => .conflict ("Block " ++ blockId ++
      " already has an active job (" ++ jobId ++ "). Wait for it to finish before launching again.")
  | .noWorkers => .unavailable
      "No workers are connected to the coordinator. Start a worker and try again."
  | .allBusy workers => .unavailable ("All " ++ toString workers ++
      " connected workers are busy. Wait for the running job to finish and try again.")
  | .noJobId => .internal "Coordinator accepted the launch but returned no job id"
  | .failed f => f

def record : LaunchRefusal → String × Decision
  | .blockOccupied _ _ => ("launch.conflict", .rejected)
  | .noWorkers | .allBusy _ => ("launch.unavailable", .rejected)
  | .noJobId | .failed _ => ("launch.failed", .failed)

end LaunchRefusal

namespace LaunchOrder

def checkBlock (order : LaunchOrder) (jobs : List Job) : Except LaunchRefusal Unit :=
  match jobs.find? fun j => j.blockId == order.blockId && j.isActive with
  | some j => .error (.blockOccupied order.blockId j.jobId)
  | none => .ok ()

def checkLoad (load : Load) : Except LaunchRefusal Unit :=
  if load.totalWorkers = 0 then .error .noWorkers
  else if load.idleWorkers = 0 then .error (.allBusy load.totalWorkers)
  else .ok ()

variable {σ : Type}

def ask {α : Type} (call : CoordinatorCall) (answer : σ → Except Failure α × σ) :
    Attempt LaunchRefusal σ α :=
  (World.ask call answer).mapError .failed

/-- The id of the new job. -/
def dispatch (order : LaunchOrder) (c : Coordinator σ) : Attempt LaunchRefusal σ String := do
  Attempt.check (order.checkBlock (← ask (.jobs true) (c.jobs true)))
  Attempt.check (checkLoad (← ask .load c.load))
  let jobId ← ask (.launch order) (c.launch order)
  if jobId.isEmpty then throw .noJobId
  return jobId

end LaunchOrder

end CoordinatorGateway
