import CoordinatorGateway.Number.Numeral
import CoordinatorGateway.Processes.Arguments
import CoordinatorGateway.Settings.Basic
import CoordinatorGateway.Text.Basic
import CoordinatorGateway.Unicode.Classes

namespace CoordinatorGateway

abbrev Environment := List (String × String)

inductive VariableError where
  | badNumber (name value : String) (cause : NumeralError)
  | openQuote (name : String)
  deriving DecidableEq, Repr

def VariableError.message : VariableError → String
  | .badNumber name value cause =>
    "Invalid value for " ++ name ++ ": '" ++ value ++ "' (" ++ cause.message ++ ")"
  | .openQuote name => "Invalid " ++ name ++ ": missing closing quote"

namespace Environment

/-- The value of the first of the variables that is set at all, unless that value is blank. -/
def value? (env : Environment) (names : List String) : Option String :=
  match names.findSome? fun name => List.lookup name env with
  | none => none
  | some value =>
    let value := Text.trim value
    if value.isEmpty then none else some value

def splitList (value : String) : List String :=
  ((Text.splitAt ',' value).map Text.trim).filter fun s => !s.isEmpty

def flag (value : String) : Bool := ["1", "true", "yes", "on"].contains (Text.lowerAscii value)

def number (limit : Nat) (name value : String) : Except VariableError Nat :=
  match Numeral.readUnsigned limit value with
  | .ok n => .ok n
  | .error cause => .error (.badNumber name value cause)

def words (name value : String) : Except VariableError (List String) :=
  match Words.split? value with
  | some ws => .ok ws
  | none => .error (.openQuote name)

end Environment

/-- A variable, the other names it goes by, and what its value does to the settings. -/
structure Override where
  name : String
  aliases : List String := []
  apply : String → Settings → Except VariableError Settings

namespace Override

def text (name : String) (set : String → Settings → Settings) : Override :=
  ⟨name, [], fun v s => .ok (set v s)⟩

def number (limit : Nat) (name : String) (set : Nat → Settings → Settings)
    (aliases : List String := []) : Override :=
  ⟨name, aliases, fun v s => do return set (← Environment.number limit name v) s⟩

def words (name : String) (set : List String → Settings → Settings) : Override :=
  ⟨name, [], fun v s => do return set (← Environment.words name v) s⟩

def all : List Override := [
  number 65535 "PORT" (fun v s => { s with server.port := v }) ["GATEWAY_PORT"],
  text "BIND_ADDRESS" fun v s => { s with server.bind := v },
  text "CORS_ORIGINS" fun v s => { s with server.corsOrigins := Environment.splitList v },
  text "TRUST_PROXY" fun v s => { s with server.trustProxy := Environment.flag v },
  text "COORDINATOR_URL" fun v s => { s with coordinator.url := v },
  number 18446744073709551615 "RPC_TIMEOUT_MS" fun v s => { s with coordinator.rpcTimeoutMs := v },
  number 18446744073709551615 "RPC_CONNECT_TIMEOUT_MS" fun v s =>
    { s with coordinator.connectTimeoutMs := v },
  text "DEBUG" fun v s => { s with debug := Environment.flag v },
  number 4294967295 "MAX_COMPUTE_CAPACITY" fun v s => { s with limits.maxCapacity := v },
  text "ALLOWED_INPUT_ROOTS" fun v s => { s with limits.inputRoots := Environment.splitList v },
  number 18446744073709551615 "RATE_LIMIT_WINDOW_MS" fun v s => { s with rateLimit.windowMs := v },
  number 4294967295 "RATE_LIMIT_MAX_REQUESTS" fun v s => { s with rateLimit.maxRequests := v },
  number 18446744073709551615 "RATE_LIMIT_SWEEP_MS" fun v s =>
    { s with rateLimit.sweepIntervalMs := v },
  text "COORDINATOR_BIN" fun v s => { s with processes.coordinatorProgram := some v },
  text "WORKER_BIN" fun v s => { s with processes.workerProgram := some v },
  text "REPO_ROOT" fun v s => { s with processes.repoRoot := some v },
  words "COORDINATOR_ARGS" fun v s => { s with processes.coordinatorArgs := v },
  words "WORKER_ARGS" fun v s => { s with processes.workerArgs := v },
  text "STOP_MANAGED_ON_EXIT" fun v s => { s with processes.stopOnExit := Environment.flag v }]

def run (env : Environment) (o : Override) (s : Settings) : Except VariableError Settings :=
  match env.value? (o.name :: o.aliases) with
  | none => .ok s
  | some v => o.apply v s

end Override

def Settings.override (env : Environment) (s : Settings) : Except VariableError Settings :=
  Override.all.foldlM (fun s o => o.run env s) s

end CoordinatorGateway
