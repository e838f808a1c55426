import CoordinatorGateway.Coordinator.Address
import CoordinatorGateway.Coordinator.Api
import CoordinatorGateway.Coordinator.Caller
import CoordinatorGateway.Coordinator.Messages

namespace CoordinatorGateway

structure SentRequest where
  path : String
  timeoutHeader : String
  message : Bytes
  deriving DecidableEq, Repr

structure WireReply where
  message : Option Bytes
  status : Status
  deriving DecidableEq, Repr

/-- The other end. Where it cannot be reached, no request goes out; where it can, it may keep
silent or take its time. -/
inductive Link where
  | unreachable
  | silent
  | replies (reply : SentRequest → WireReply)
  | late (delay : Duration) (reply : SentRequest → WireReply)

namespace Remote

def servicePath : String := "/coordinator.v1.CoordinatorApi/"

def unreachableStatus : Status := ⟨.unavailable, "tcp connect error"⟩

/-- A message counts only under the status ok, and there has to be one. -/
def decode {α : Type} (reply : Wire.Message α) (w : WireReply) : Except Status α :=
  if w.status.code ≠ .ok then .error w.status
  else match w.message with
    | none => .error ⟨.internal, "Missing response message."⟩
    | some bytes =>
      match reply.read bytes with
      | .ok a => .ok a
      | .error e => .error ⟨.internal, e.message⟩

def call {α β : Type} (r : Remote) (method : String) (query : Wire.Message α)
    (reply : Wire.Message β) (a : α) (link : Link) : Option SentRequest × Except Failure β :=
  let sent : SentRequest := ⟨servicePath ++ method, r.timeout.timeoutHeader, query.write a⟩
  let result (answer : Reply β) : Except Failure β := (Call.mk method r.timeout answer).result
  match link with
  | .unreachable => (none, result (.atOnce (.error unreachableStatus)))
  | .silent => (some sent, result .never)
  | .replies replyTo => (some sent, result (.atOnce (decode reply (replyTo sent))))
  | .late delay replyTo => (some sent, result (.after delay (decode reply (replyTo sent))))

def jobStateName (n : Int32) : String :=
  if n = 1 then "created"
  else if n = 2 then "running"
  else if n = 3 then "completed"
  else if n = 4 then "failed"
  else if n = 5 then "cancelled"
  else "unknown"

def workerStateName (n : Int32) : String :=
  if n = 1 then "idle"
  else if n = 2 then "computing"
  else if n = 3 then "disconnected"
  else "unknown"

def someIfNotEmpty (s : String) : Option String := if s.isEmpty then none else some s

def infoOfReply (r : InfoReply) : ServiceInfo :=
  ⟨r.serviceName, r.version, r.uptimeSeconds.toNat, r.startTimeUnix.toNat⟩

def loadOfReply (r : LoadReply) : Load :=
  ⟨r.totalWorkers.toNat, r.idleWorkers.toNat, r.busyWorkers.toNat, r.capacity.toNat,
    r.activeJobs.toNat⟩

def jobOfEntry (e : JobEntry) : Job :=
  ⟨e.jobId, e.blockId, jobStateName e.state, e.phase, e.capacity.toNat, e.assignedWorkers,
    e.startTimeUnix.toNat, e.durationMs.toNat, someIfNotEmpty e.error⟩

def workerOfEntry (e : WorkerEntry) : ConnectedWorker :=
  ⟨e.workerId, workerStateName e.state, e.capacity.toNat, e.connectedAtUnix.toNat,
    e.lastHeartbeatUnix.toNat, someIfNotEmpty e.currentJobId⟩

def info (r : Remote) (link : Link) : Option SentRequest × Except Failure ServiceInfo :=
  let (sent, result) := r.call "StatusInfo" Schema.infoQuery Schema.infoReply {} link
  (sent, result.map infoOfReply)

def load (r : Remote) (link : Link) : Option SentRequest × Except Failure Load :=
  let (sent, result) := r.call "SystemStatus" Schema.loadQuery Schema.loadReply {} link
  (sent, result.map loadOfReply)

def jobs (r : Remote) (activeOnly : Bool) (link : Link) :
    Option SentRequest × Except Failure (List Job) :=
  let (sent, result) := r.call "JobsList" Schema.jobsQuery Schema.jobsReply ⟨activeOnly⟩ link
  (sent, result.map fun reply => reply.jobs.map jobOfEntry)

/-- A coordinator that does not know the job says so by a status of its own. -/
def job (r : Remote) (id : String) (link : Link) :
    Option SentRequest × Except Failure (Option Job) :=
  let (sent, result) := r.call "JobStatus" Schema.jobQuery Schema.jobReply ⟨id⟩ link
  (sent, match result with
    | .ok reply => .ok (reply.job.map jobOfEntry)
    | .error (.notFound _) => .ok none
    | .error e => .error e)

def workers (r : Remote) (link : Link) :
    Option SentRequest × Except Failure (List ConnectedWorker) :=
  let (sent, result) := r.call "WorkersList" Schema.workersQuery Schema.workersReply {} link
  (sent, result.map fun reply => reply.workers.map workerOfEntry)

def launch (r : Remote) (order : LaunchOrder) (link : Link) :
    Option SentRequest × Except Failure String :=
  let query : LaunchQuery :=
    ⟨order.blockId, .ofNat order.capacity, order.inputPath, order.programPath⟩
  let (sent, result) := r.call "LaunchProof" Schema.launchQuery Schema.launchReply query link
  (sent, result.map LaunchReply.jobId)

/-- The remote coordinator, its state being the links of the calls to come. -/
def coordinator (r : Remote) : Coordinator (List Link) :=
  let next {α : Type} (ask : Link → Option SentRequest × Except Failure α) (links : List Link) :
      Except Failure α × List Link :=
    ((ask (links.head?.getD .unreachable)).2, links.drop 1)
  { endpoint := r.endpoint
    inFlight := fun _ => 0
    info := next r.info
    load := next r.load
    jobs := fun activeOnly => next (r.jobs activeOnly)
    job := fun id => next (r.job id)
    workers := next r.workers
    launch := fun order => next (r.launch order) }

end Remote

end CoordinatorGateway
