import CoordinatorGateway.Failure

namespace CoordinatorGateway

structure ServiceInfo where
  serviceName : String := ""
  version : String := ""
  uptimeSeconds : Nat := 0
  startTimeUnix : Nat := 0
  deriving DecidableEq, Repr

def ServiceInfo.json (i : ServiceInfo) : Json :=
  .map [("service_name", .string i.serviceName), ("version", .string i.version),
    ("uptime_seconds", .nat i.uptimeSeconds), ("start_time_unix", .nat i.startTimeUnix)]

structure Load where
  totalWorkers : Nat := 0
  idleWorkers : Nat := 0
  busyWorkers : Nat := 0
  capacity : Nat := 0
  activeJobs : Nat := 0
  deriving DecidableEq, Repr

def Load.members (l : Load) : List Json.Member :=
  [("total_workers", .nat l.totalWorkers), ("idle_workers", .nat l.idleWorkers),
    ("busy_workers", .nat l.busyWorkers), ("compute_capacity", .nat l.capacity),
    ("active_jobs", .nat l.activeJobs)]

def Load.json (l : Load) : Json := .map l.members

structure Job where
  jobId : String
  blockId : String
  state : String
  phase : String
  capacity : Nat
  assignedWorkers : List String
  startTimeUnix : Nat
  durationMs : Nat
  error : Option String
  deriving DecidableEq, Repr

namespace Job

/-- The job still occupies its block. -/
def isActive (j : Job) : Bool := j.state == "created" || j.state == "running"

def json (j : Job) : Json :=
  .map ([("job_id", .string j.jobId), ("block_id", .string j.blockId), ("state", .string j.state),
    ("phase", .string j.phase), ("compute_capacity", .nat j.capacity),
    ("assigned_workers", .array (j.assignedWorkers.map .string)),
    ("start_time_unix", .nat j.startTimeUnix), ("duration_ms", .nat j.durationMs)] ++
      Json.optional "error" (j.error.map .string))

end Job

structure ConnectedWorker where
  workerId : String
  state : String
  capacity : Nat
  connectedAtUnix : Nat
  lastHeartbeatUnix : Nat
  currentJobId : Option String
  deriving DecidableEq, Repr

def ConnectedWorker.json (w : ConnectedWorker) : Json :=
  .map ([("worker_id", .string w.workerId), ("state", .string w.state),
    ("compute_capacity", .nat w.capacity), ("connected_at_unix", .nat w.connectedAtUnix),
    ("last_heartbeat_unix", .nat w.lastHeartbeatUnix)] ++
      Json.optional "current_job_id" (w.currentJobId.map .string))

structure LaunchOrder where
  blockId : String
  capacity : Nat
  inputPath : String
  programPath : Option String
  deriving DecidableEq, Repr

inductive CoordinatorCall where
  | info
  | load
  | jobs (activeOnly : Bool)
  | job (id : String)
  | workers
  | launch (order : LaunchOrder)
  deriving DecidableEq, Repr

/-- A coordinator with states `σ`. Any question may change its state. -/
structure Coordinator (σ : Type) where
  /-- The address that operators are shown. -/
  endpoint : String
  /-- The calls under way. -/
  inFlight : σ → Nat
  info : σ → Except Failure ServiceInfo × σ
  load : σ → Except Failure Load × σ
  jobs : Bool → σ → Except Failure (List Job) × σ
  /-- No job where the coordinator does not know the id. -/
  job : String → σ → Except Failure (Option Job) × σ
  workers : σ → Except Failure (List ConnectedWorker) × σ
  /-- The id of the new job. -/
  launch : LaunchOrder → σ → Except Failure String × σ

end CoordinatorGateway
