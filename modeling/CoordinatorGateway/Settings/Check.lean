import CoordinatorGateway.Coordinator.Address
import CoordinatorGateway.Http.Uri
import CoordinatorGateway.Settings.Basic

namespace CoordinatorGateway

inductive SettingsFault where
  | zero (field : String)
  | emptyUrl
  | badUrl (url : String)
  | emptyName
  | tooLong (field : String)
  deriving DecidableEq, Repr

def maxMillis : Nat := 86400000

def SettingsFault.message : SettingsFault → String
  | .zero field => field ++ " must be greater than 0"
  | .emptyUrl => "coordinator.url must not be empty"
  | .badUrl url => "coordinator.url is not a valid URI: " ++ url
  | .emptyName => "process binary names must not be empty"
  | .tooLong field => field ++ " must be at most " ++ toString maxMillis ++ " (24h)"

namespace Settings

def faultIf (broken : Bool) (fault : SettingsFault) : List SettingsFault :=
  if broken then [fault] else []

def urlFaults (url : String) : List SettingsFault :=
  if (Text.trim url).isEmpty then [.emptyUrl]
  else faultIf (Uri.read? (Address.normalize url)).isNone (.badUrl url)

def durations (s : Settings) : List (String × Nat) := [
  ("coordinator.rpc_timeout_ms", s.coordinator.rpcTimeoutMs),
  ("coordinator.connect_timeout_ms", s.coordinator.connectTimeoutMs),
  ("rate_limit.window_ms", s.rateLimit.windowMs),
  ("rate_limit.sweep_interval_ms", s.rateLimit.sweepIntervalMs),
  ("processes.startup_grace_ms", s.processes.startupGraceMs),
  ("processes.stop_grace_ms", s.processes.stopGraceMs)]

def faults (s : Settings) : List SettingsFault :=
  faultIf (s.coordinator.rpcTimeoutMs == 0) (.zero "coordinator.rpc_timeout_ms") ++
  urlFaults s.coordinator.url ++
  faultIf (s.limits.maxCapacity == 0) (.zero "limits.max_compute_capacity") ++
  faultIf (s.rateLimit.windowMs == 0) (.zero "rate_limit.window_ms") ++
  faultIf (s.rateLimit.maxRequests == 0) (.zero "rate_limit.max_requests") ++
  faultIf (s.rateLimit.sweepIntervalMs == 0) (.zero "rate_limit.sweep_interval_ms") ++
  faultIf (s.processes.coordinatorName.isEmpty || s.processes.workerName.isEmpty) .emptyName ++
  s.durations.flatMap fun (field, ms) => faultIf (decide (maxMillis < ms)) (.tooLong field)

end Settings

end CoordinatorGateway
