import CoordinatorGateway.Settings.Basic
import CoordinatorGateway.Toml.Reader

namespace CoordinatorGateway

namespace Toml

def string? : Toml → Option String
  | .string s => some s
  | _ => none

def boolean? : Toml → Option Bool
  | .boolean b => some b
  | _ => none

def upTo? (limit : Nat) : Toml → Option Nat
  | .integer n => if 0 ≤ n ∧ n ≤ limit then some n.toNat else none
  | _ => none

def strings? : Toml → Option (List String)
  | .array items => items.mapM string?
  | _ => none

/-- The values of the named fields of a section: by name in a table, in order in an array. A date
has none of them. -/
def fields? (names : List String) : Toml → Option (List (Option Toml))
  | .table _ members => some (names.map fun name => members.lookup name)
  | .array items => some (names.zipIdx.map fun (_, i) => items[i]?)
  | .tables items => some (names.zipIdx.map fun (_, i) => (items[i]?).map (.table .header))
  | .moment => some (names.map fun _ => none)
  | _ => none

/-- Whether the value is given in order, so that its first fields cannot be left out. -/
def isPositional : Toml → Bool
  | .array _ | .tables _ => true
  | _ => false

end Toml

def fieldOr {α : Type} (default : α) (read : Toml → Option α) : Option Toml → Option α
  | some v => read v
  | none => some default

def sectionOr {α : Type} (default : α) (read : Toml → Option α) (document : Toml.Members)
    (name : String) : Option α :=
  fieldOr default read (document.lookup name)

def maxU16 : Nat := 65535

def maxU32 : Nat := 4294967295

def maxU64 : Nat := 18446744073709551615

def ServerSettings.ofToml (v : Toml) : Option ServerSettings := do
  match ← v.fields? ["port", "bind", "cors_origins", "trust_proxy"] with
  | [port, bind, corsOrigins, trustProxy] =>
    let d : ServerSettings := {}
    return ⟨← fieldOr d.port (Toml.upTo? maxU16) port, ← fieldOr d.bind Toml.string? bind,
      ← fieldOr d.corsOrigins Toml.strings? corsOrigins,
      ← fieldOr d.trustProxy Toml.boolean? trustProxy⟩
  | _ => none

def CoordinatorSettings.ofToml (v : Toml) : Option CoordinatorSettings := do
  match ← v.fields? ["url", "rpc_timeout_ms", "connect_timeout_ms"] with
  | [url, rpcTimeout, connectTimeout] =>
    let d : CoordinatorSettings := {}
    return ⟨← fieldOr d.url Toml.string? url,
      ← fieldOr d.rpcTimeoutMs (Toml.upTo? maxU64) rpcTimeout,
      ← fieldOr d.connectTimeoutMs (Toml.upTo? maxU64) connectTimeout⟩
  | _ => none

def LimitSettings.ofToml (v : Toml) : Option LimitSettings := do
  match ← v.fields? ["max_compute_capacity", "allowed_input_roots"] with
  | [maxCapacity, inputRoots] =>
    let d : LimitSettings := {}
    return ⟨← fieldOr d.maxCapacity (Toml.upTo? maxU32) maxCapacity,
      ← fieldOr d.inputRoots Toml.strings? inputRoots⟩
  | _ => none

def RateSettings.ofToml (v : Toml) : Option RateSettings := do
  match ← v.fields? ["window_ms", "max_requests", "sweep_interval_ms"] with
  | [window, maxRequests, sweepInterval] =>
    let d : RateSettings := {}
    return ⟨← fieldOr d.windowMs (Toml.upTo? maxU64) window,
      ← fieldOr d.maxRequests (Toml.upTo? maxU32) maxRequests,
      ← fieldOr d.sweepIntervalMs (Toml.upTo? maxU64) sweepInterval⟩
  | _ => none

def ProcessSettings.ofToml (v : Toml) : Option ProcessSettings := do
  match ← v.fields? ["coordinator_bin", "worker_bin", "repo_root", "coordinator_name",
      "worker_name", "coordinator_args", "worker_args", "startup_grace_ms", "stop_grace_ms",
      "stop_on_exit"] with
  | [coordinatorProgram, workerProgram, repoRoot, coordinatorName, workerName, coordinatorArgs,
      workerArgs, startupGrace, stopGrace, stopOnExit] =>
    if v.isPositional ∧ repoRoot.isNone then none
    else
      let d : ProcessSettings := {}
      return ⟨← fieldOr none (·.string?.map some) coordinatorProgram,
        ← fieldOr none (·.string?.map some) workerProgram,
        ← fieldOr none (·.string?.map some) repoRoot,
        ← fieldOr d.coordinatorName Toml.string? coordinatorName,
        ← fieldOr d.workerName Toml.string? workerName,
        ← fieldOr d.coordinatorArgs Toml.strings? coordinatorArgs,
        ← fieldOr d.workerArgs Toml.strings? workerArgs,
        ← fieldOr d.startupGraceMs (Toml.upTo? maxU64) startupGrace,
        ← fieldOr d.stopGraceMs (Toml.upTo? maxU64) stopGrace,
        ← fieldOr d.stopOnExit Toml.boolean? stopOnExit⟩
  | _ => none

def auditOfToml (v : Toml) : Option Bool := do
  match ← v.fields? ["enabled"] with
  | [enabled] => fieldOr true Toml.boolean? enabled
  | _ => none

def Settings.ofDocument (document : Toml.Members) : Option Settings := do
  return ⟨← sectionOr {} ServerSettings.ofToml document "server",
    ← sectionOr {} CoordinatorSettings.ofToml document "coordinator",
    ← sectionOr {} LimitSettings.ofToml document "limits",
    ← sectionOr {} RateSettings.ofToml document "rate_limit",
    ← sectionOr {} ProcessSettings.ofToml document "processes",
    ← sectionOr true auditOfToml document "audit",
    ← sectionOr false Toml.boolean? document "debug"⟩

end CoordinatorGateway
