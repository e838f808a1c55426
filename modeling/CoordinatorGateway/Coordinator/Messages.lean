import CoordinatorGateway.Wire.Message

namespace CoordinatorGateway

open Wire

structure InfoQuery where
  deriving DecidableEq, Repr

structure InfoReply where
  serviceName : String := ""
  version : String := ""
  uptimeSeconds : UInt64 := 0
  startTimeUnix : UInt64 := 0
  deriving DecidableEq, Repr

structure LoadQuery where
  deriving DecidableEq, Repr

structure LoadReply where
  totalWorkers : UInt32 := 0
  idleWorkers : UInt32 := 0
  busyWorkers : UInt32 := 0
  capacity : UInt64 := 0
  activeJobs : UInt32 := 0
  deriving DecidableEq, Repr

structure JobEntry where
  jobId : String := ""
  blockId : String := ""
  state : Int32 := 0
  phase : String := ""
  capacity : UInt32 := 0
  assignedWorkers : List String := []
  startTimeUnix : UInt64 := 0
  durationMs : UInt64 := 0
  error : String := ""
  deriving DecidableEq, Repr

structure JobsQuery where
  activeOnly : Bool := false
  deriving DecidableEq, Repr

structure JobsReply where
  jobs : List JobEntry := []
  deriving DecidableEq, Repr

structure JobQuery where
  jobId : String := ""
  deriving DecidableEq, Repr

structure JobReply where
  job : Option JobEntry := none
  deriving DecidableEq, Repr

structure WorkerEntry where
  workerId : String := ""
  state : Int32 := 0
  capacity : UInt32 := 0
  connectedAtUnix : UInt64 := 0
  lastHeartbeatUnix : UInt64 := 0
  currentJobId : String := ""
  deriving DecidableEq, Repr

structure WorkersQuery where
  availableOnly : Bool := false
  deriving DecidableEq, Repr

structure WorkersReply where
  workers : List WorkerEntry := []
  deriving DecidableEq, Repr

structure LaunchQuery where
  blockId : String := ""
  capacity : UInt32 := 0
  inputPath : String := ""
  programPath : Option String := none
  deriving DecidableEq, Repr

structure LaunchReply where
  jobId : String := ""
  deriving DecidableEq, Repr

namespace Schema

def infoQuery : Message InfoQuery := ⟨"StatusInfoRequest", {}, []⟩

def infoReply : Message InfoReply := ⟨"StatusInfoResponse", {}, [
  .text 1 "service_name" (·.serviceName) fun v a => { a with serviceName := v },
  .text 2 "version" (·.version) fun v a => { a with version := v },
  .uint64 3 "uptime_seconds" (·.uptimeSeconds) fun v a => { a with uptimeSeconds := v },
  .uint64 4 "start_time_unix" (·.startTimeUnix) fun v a => { a with startTimeUnix := v }]⟩

def loadQuery : Message LoadQuery := ⟨"SystemStatusRequest", {}, []⟩

def loadReply : Message LoadReply := ⟨"SystemStatusResponse", {}, [
  .uint32 1 "total_workers" (·.totalWorkers) fun v a => { a with totalWorkers := v },
  .uint32 2 "idle_workers" (·.idleWorkers) fun v a => { a with idleWorkers := v },
  .uint32 3 "busy_workers" (·.busyWorkers) fun v a => { a with busyWorkers := v },
  .uint64 4 "compute_capacity" (·.capacity) fun v a => { a with capacity := v },
  .uint32 5 "active_jobs" (·.activeJobs) fun v a => { a with activeJobs := v }]⟩

def jobEntry : Message JobEntry := ⟨"JobSummary", {}, [
  .text 1 "job_id" (·.jobId) fun v a => { a with jobId := v },
  .text 2 "block_id" (·.blockId) fun v a => { a with blockId := v },
  .enumeration 3 "state" (·.state) fun v a => { a with state := v },
  .text 4 "phase" (·.phase) fun v a => { a with phase := v },
  .uint32 5 "compute_capacity" (·.capacity) fun v a => { a with capacity := v },
  .texts 6 "assigned_workers" (·.assignedWorkers) fun v a => { a with assignedWorkers := v },
  .uint64 7 "start_time_unix" (·.startTimeUnix) fun v a => { a with startTimeUnix := v },
  .uint64 8 "duration_ms" (·.durationMs) fun v a => { a with durationMs := v },
  .text 9 "error" (·.error) fun v a => { a with error := v }]⟩

def jobsQuery : Message JobsQuery := ⟨"JobsListRequest", {}, [
  .boolean 1 "active_only" (·.activeOnly) fun v a => { a with activeOnly := v }]⟩

def jobsReply : Message JobsReply := ⟨"JobsListResponse", {}, [
  .messages jobEntry 1 "jobs" (·.jobs) fun v a => { a with jobs := v }]⟩

def jobQuery : Message JobQuery := ⟨"JobStatusRequest", {}, [
  .text 1 "job_id" (·.jobId) fun v a => { a with jobId := v }]⟩

def jobReply : Message JobReply := ⟨"JobStatusResponse", {}, [
  .optionalMessage jobEntry 1 "job" (·.job) fun v a => { a with job := v }]⟩

def workerEntry : Message WorkerEntry := ⟨"WorkerSummary", {}, [
  .text 1 "worker_id" (·.workerId) fun v a => { a with workerId := v },
  .enumeration 2 "state" (·.state) fun v a => { a with state := v },
  .uint32 3 "compute_capacity" (·.capacity) fun v a => { a with capacity := v },
  .uint64 4 "connected_at_unix" (·.connectedAtUnix) fun v a => { a with connectedAtUnix := v },
  .uint64 5 "last_heartbeat_unix" (·.lastHeartbeatUnix) fun v a =>
    { a with lastHeartbeatUnix := v },
  .text 6 "current_job_id" (·.currentJobId) fun v a => { a with currentJobId := v }]⟩

def workersQuery : Message WorkersQuery := ⟨"WorkersListRequest", {}, [
  .boolean 1 "available_only" (·.availableOnly) fun v a => { a with availableOnly := v }]⟩

def workersReply : Message WorkersReply := ⟨"WorkersListResponse", {}, [
  .messages workerEntry 1 "workers" (·.workers) fun v a => { a with workers := v }]⟩

def launchQuery : Message LaunchQuery := ⟨"LaunchProofRequest", {}, [
  .text 1 "block_id" (·.blockId) fun v a => { a with blockId := v },
  .uint32 2 "compute_capacity" (·.capacity) fun v a => { a with capacity := v },
  .text 3 "input_path" (·.inputPath) fun v a => { a with inputPath := v },
  .optionalText 4 "elf_path" (·.programPath) fun v a => { a with programPath := v }]⟩

def launchReply : Message LaunchReply := ⟨"LaunchProofResponse", {}, [
  .text 1 "job_id" (·.jobId) fun v a => { a with jobId := v }]⟩

end Schema

end CoordinatorGateway
