import CoordinatorGateway.Gateway.Report
import CoordinatorGateway.Gateway.Route
import CoordinatorGateway.Http.Client
import CoordinatorGateway.Http.Request

namespace CoordinatorGateway

def pathParameter (raw : String) : Except Failure String :=
  match Percent.decode? raw with
  | some s => .ok s
  | none => .error (.invalidArgument "Path parameter is not valid UTF-8")

def jobIdOf (raw : String) : Except Failure String := do
  let id ← pathParameter raw
  Identifier.check "job id" id
  return id

def WorkerRequest.launch (r : WorkerRequest) : Except Failure WorkerLaunch := do
  let capacity ← match r.capacity with
    | some v => pure (some (← Capacity.ofJson v))
    | none => pure none
  return ⟨r.programPath, r.inputPath, capacity, r.workerId⟩

namespace Gateway

open Attempt (surely check)

variable {σ : Type}

def inFlight (g : Gateway σ) : Act σ Nat := do return g.coordinator.inFlight (← get).coordinator

def health (g : Gateway σ) : Act σ Response := do
  match ← (World.ask .info g.coordinator.info).run with
  | .ok info => return Report.healthy info
  | .error e => return Report.unhealthy e

/-- A coordinator that does not say who it is counts as disconnected; its load is a detail. -/
def coordinatorInfo (g : Gateway σ) : Act σ Response := do
  match ← (World.ask .info g.coordinator.info).run with
  | .error e => return Report.disconnected g.coordinator.endpoint e (← g.inFlight)
  | .ok info =>
    let load ← (World.ask .load g.coordinator.load).run
    return Report.connected g.coordinator.endpoint info load.toOption (← g.inFlight)

def job (g : Gateway σ) (raw : String) : Attempt Failure σ Response := do
  let id ← check (jobIdOf raw)
  match ← World.ask (.job id) (g.coordinator.job id) with
  | some job => return Report.success [("job", job.json)]
  | none => throw (.notFound ("Job " ++ id ++ " not found"))

def cancelJob (raw : String) : Attempt Failure σ Response := do
  discard <| check (jobIdOf raw)
  throw (.notImplemented "Job cancellation is not supported by the coordinator yet")

def supervise {α : Type} (attempt : Attempt SupervisorFault σ α) : Attempt Failure σ α :=
  attempt.mapError SupervisorFault.failure

def startWorker (g : Gateway σ) (body : Body) : Attempt Failure σ Response := do
  let launch ← check do (← WorkerRequest.read (← body.read)).launch
  return Report.success (Report.started (← supervise (g.supervisor.startWorker g.names launch)))

def stopWorker (g : Gateway σ) (raw : String) : Attempt Failure σ Response := do
  let id ← check (pathParameter raw)
  let outcome ← supervise (g.supervisor.stopWorker id)
  return Report.success (("worker_id", .string id) :: Report.stopped outcome)

def workerProcesses (g : Gateway σ) : Option String → Attempt Failure σ Response
  | some id => do return Report.success (← supervise (g.supervisor.workerStatusById id)).members
  | none => do
    let statuses ← supervise g.supervisor.workerStatus
    return Report.success (Report.listing "workers" (fun w => .map w.members) statuses)

def follow (g : Gateway σ) (client : String) (body : Body) : Route → Attempt Failure σ Response
  | .health => surely g.health
  | .version => return .json 200 (Json.map Report.package).render
  | .coordinatorInfo => surely g.coordinatorInfo
  | .load => do
    let load ← World.ask .load g.coordinator.load
    return Report.success load.members
  | .workers => do
    let workers ← World.ask .workers g.coordinator.workers
    return Report.success (Report.listing "workers" ConnectedWorker.json workers)
  | .jobs activeOnly => do
    let jobs ← World.ask (.jobs activeOnly) (g.coordinator.jobs activeOnly)
    return Report.success (Report.listing "jobs" Job.json jobs)
  | .job id => g.job id
  | .cancelJob id => cancelJob id
  | .launchProof => do
    let launched ← g.launcher.launchBody client body.read g.coordinator
    return Report.success launched.members
  | .startCoordinator => do
    let process ← supervise g.supervisor.startCoordinator
    return Report.success (Report.started process)
  | .stopCoordinator => do
    let outcome ← supervise g.supervisor.stopCoordinator
    return Report.success (Report.stopped outcome)
  | .coordinatorProcess => do
    return Report.success (← supervise g.supervisor.coordinatorStatus).members
  | .startWorker => g.startWorker body
  | .stopWorker id => g.stopWorker id
  | .workerProcesses id => g.workerProcesses id

def attempt (g : Gateway σ) (client : String) (r : Request) : Attempt Failure σ Response :=
  match Route.find? r.method r.target.path (r.target.query.getD "") with
  | some route => g.follow client r.body route
  | none => throw (.notFound ("No route for " ++ r.target.path))

/-- A client that only asks what is allowed is told so by the headers. -/
def respond (g : Gateway σ) (client : String) (r : Request) : Act σ Response := do
  if r.method = "OPTIONS" then return .empty 204
  match ← (g.attempt client r).run with
  | .ok response => return response
  | .error e => return e.response

/-- The id that the request carries, if it is a fit one, or else a made-up one. -/
def requestId (g : Gateway σ) (h : Headers) : Act σ String := do
  match (h.value? "x-request-id").filter fun id => (Identifier.fault? id).isNone with
  | some id => return id
  | none => World.makeName g.names.request

def allowedOrigin? (g : Gateway σ) (h : Headers) : Option String :=
  if g.corsOrigins.contains "*" then some "*"
  else (h.value? "origin").filter g.corsOrigins.contains

def originHeaders (origin : String) : List (String × String) :=
  [("access-control-allow-origin", origin), ("vary", "Origin"),
    ("access-control-allow-methods", "GET, POST, OPTIONS"),
    ("access-control-allow-headers", "Content-Type, X-Request-Id"),
    ("access-control-expose-headers", "X-Request-Id, X-Gateway-Error, Retry-After")]

def decorate (requestId : String) (origin : Option String) (r : Response) : Response :=
  (("x-request-id", requestId) :: (origin.map originHeaders).getD []).foldl
    (fun r h => r.setHeader h.1 h.2) r

def handle (g : Gateway σ) (r : Request) : Act σ Response := do
  let id ← g.requestId r.headers
  let response ← g.respond (clientIdentity r.headers r.peer g.trustProxy) r
  return decorate id (g.allowedOrigin? r.headers) response

end Gateway

end CoordinatorGateway
