import CoordinatorGateway.Coordinator.Api

namespace CoordinatorGateway

structure ScriptedFailures where
  info : Option Failure := none
  load : Option Failure := none
  jobs : Option Failure := none
  job : Option Failure := none
  workers : Option Failure := none
  launch : Option Failure := none

/-- A coordinator that answers from a script. It lists its jobs whatever is asked for, and launches
are added to them. -/
structure Script where
  info : ServiceInfo := {}
  load : Load := {}
  jobs : List Job := []
  workers : List ConnectedWorker := []
  inFlight : Nat := 0
  /-- The ids of the first launches. -/
  jobIds : List String := []
  failures : ScriptedFailures := {}
  /-- How many launches have succeeded. -/
  launches : Nat := 0

namespace Script

def orFail {α : Type} (failure : Option Failure) (answer : α) : Except Failure α :=
  match failure with
  | some e => .error e
  | none => .ok answer

def nextJobId (s : Script) : String :=
  (s.jobIds[s.launches]?).getD ("job-" ++ toString (s.launches + 1))

def newJob (s : Script) (order : LaunchOrder) : Job :=
  ⟨s.nextJobId, order.blockId, "running", "contributions", order.capacity, [], 0, 0, none⟩

def occupy (l : Load) : Load :=
  { l with
    idleWorkers := l.idleWorkers - 1
    busyWorkers := l.busyWorkers + 1
    activeJobs := l.activeJobs + 1 }

def afterLaunch (s : Script) (order : LaunchOrder) : Script :=
  { s with
    jobs := s.jobs ++ [s.newJob order]
    load := occupy s.load
    launches := s.launches + 1 }

def launch (order : LaunchOrder) (s : Script) : Except Failure String × Script :=
  match s.failures.launch with
  | some e => (.error e, s)
  | none => (.ok s.nextJobId, s.afterLaunch order)

def coordinator (endpoint : String) : Coordinator Script where
  endpoint := endpoint
  inFlight := inFlight
  info s := (orFail s.failures.info s.info, s)
  load s := (orFail s.failures.load s.load, s)
  jobs _ s := (orFail s.failures.jobs s.jobs, s)
  job id s := (orFail s.failures.job (s.jobs.find? fun j => j.jobId == id), s)
  workers s := (orFail s.failures.workers s.workers, s)
  launch := launch

end Script

end CoordinatorGateway
