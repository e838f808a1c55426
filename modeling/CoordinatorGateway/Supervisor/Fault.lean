import CoordinatorGateway.Failure
import CoordinatorGateway.Programs.Locator
import CoordinatorGateway.Processes.Host

namespace CoordinatorGateway

inductive SupervisorFault where
  | notLocated (m : MissingProgram)
  | alreadyRunning (role : Role) (pid : Nat)
  | runningOutside (role : Role) (pids : List Nat)
  | workerRunning (id : String) (pid : Nat)
  | notStarted (role : Role) (program cause : String)
  | exitedAtOnce (role : Role) (code : Option Nat)
  | badArgument (text : String)
  | unknownWorker (id : String)
  | notInspected (cause : String)
  | notSignalled (pid : Nat) (cause : String)
  deriving DecidableEq, Repr

namespace SupervisorFault

def message : SupervisorFault → String
  | .notLocated m => m.message
  | .alreadyRunning role pid =>
    "The " ++ role.label ++ " is already running (pid " ++ toString pid ++ ")"
  | .runningOutside role pids =>
    "The " ++ role.label ++ " is already running externally (pid " ++
      ", ".intercalate (pids.map toString) ++ "). Stop it first or use the running instance."
  | .workerRunning id pid =>
    "Worker '" ++ id ++ "' is already running (pid " ++ toString pid ++ ")"
  | .notStarted role program cause =>
    "Failed to start the " ++ role.label ++ " from " ++ program ++ ": " ++ cause
  | .exitedAtOnce role code =>
    "The " ++ role.label ++ " exited immediately after starting (exit code " ++
      (code.map toString).getD "unknown" ++ "). Check the gateway log for its output."
  | .badArgument text => text
  | .unknownWorker id => "Worker '" ++ id ++ "' is not tracked by this gateway"
  | .notInspected cause => "Could not inspect running processes: " ++ cause
  | .notSignalled pid cause => "Could not signal pid " ++ toString pid ++ ": " ++ cause

def failure (f : SupervisorFault) : Failure :=
  match f with
  | .alreadyRunning _ _ | .runningOutside _ _ | .workerRunning _ _ | .badArgument _ =>
    .invalidArgument f.message
  | .unknownWorker _ => .notFound f.message
  | .notLocated _ | .notStarted _ _ _ | .exitedAtOnce _ _ | .notInspected _ | .notSignalled _ _ =>
    .internal f.message

end SupervisorFault

end CoordinatorGateway
