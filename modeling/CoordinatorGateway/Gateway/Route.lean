import CoordinatorGateway.Http.Query
import CoordinatorGateway.Text.Basic

namespace CoordinatorGateway

inductive Route where
  | health
  | version
  | coordinatorInfo
  | load
  | workers
  | jobs (activeOnly : Bool)
  | job (id : String)
  | cancelJob (id : String)
  | launchProof
  | startCoordinator
  | stopCoordinator
  | coordinatorProcess
  | startWorker
  | stopWorker (id : String)
  /-- All managed workers, or the one of this id. -/
  | workerProcesses (id : Option String)
  deriving DecidableEq, Repr

namespace Route

/-- What follows the start, if the path has it. -/
def after? (start path : String) : Option String :=
  (Text.stripStart? start.toList path.toList).map String.ofList

/-- The id of a job to be cancelled. Where the start and the end of the path overlap it is
empty. -/
def cancelled? (path : String) : Option String :=
  match after? "/api/job/" path with
  | none => none
  | some rest =>
    match Text.stripEnd? "/cancel".toList rest.toList with
    | some id => some (String.ofList id)
    | none => if (Text.stripEnd? "/cancel".toList path.toList).isSome then some "" else none

def ofGet? (path query : String) : Option Route :=
  match path with
  | "/health" => some .health
  | "/version" => some .version
  | "/api/coordinator/info" => some .coordinatorInfo
  | "/api/system/status" => some .load
  | "/api/workers" => some .workers
  | "/api/jobs" => some (.jobs (Query.flag query "active_only"))
  | "/api/coordinator/process-status" => some .coordinatorProcess
  | "/api/worker/process-status" => some (.workerProcesses (Query.value? query "worker_id"))
  | _ => (after? "/api/job/" path).map .job

def ofPost? (path : String) : Option Route :=
  match path with
  | "/api/proof/launch" => some .launchProof
  | "/api/coordinator/start" => some .startCoordinator
  | "/api/coordinator/stop" => some .stopCoordinator
  | "/api/worker/start" => some .startWorker
  | _ => ((cancelled? path).map .cancelJob).or ((after? "/api/worker/stop/" path).map .stopWorker)

def find? (method path query : String) : Option Route :=
  match method with
  | "GET" => ofGet? path query
  | "POST" => ofPost? path
  | _ => none

end Route

end CoordinatorGateway
