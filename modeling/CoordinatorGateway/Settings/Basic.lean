import CoordinatorGateway.Duration

namespace CoordinatorGateway

structure ServerSettings where
  port : Nat := 8080
  bind : String := "127.0.0.1"
  corsOrigins : List String := ["http://localhost:3000"]
  trustProxy : Bool := false
  deriving DecidableEq, Repr

structure CoordinatorSettings where
  url : String := "http://127.0.0.1:50051"
  rpcTimeoutMs : Nat := 10000
  connectTimeoutMs : Nat := 3000
  deriving DecidableEq, Repr

structure LimitSettings where
  maxCapacity : Nat := 10000
  inputRoots : List String := []
  deriving DecidableEq, Repr

structure RateSettings where
  windowMs : Nat := 60000
  maxRequests : Nat := 10
  sweepIntervalMs : Nat := 60000
  deriving DecidableEq, Repr

structure ProcessSettings where
  coordinatorProgram : Option String := none
  workerProgram : Option String := none
  repoRoot : Option String := none
  coordinatorName : String := "proof-coordinator"
  workerName : String := "proof-worker"
  coordinatorArgs : List String := []
  workerArgs : List String := []
  startupGraceMs : Nat := 1500
  stopGraceMs : Nat := 3000
  stopOnExit : Bool := true
  deriving DecidableEq, Repr

structure Settings where
  server : ServerSettings := {}
  coordinator : CoordinatorSettings := {}
  limits : LimitSettings := {}
  rateLimit : RateSettings := {}
  processes : ProcessSettings := {}
  auditEnabled : Bool := true
  debug : Bool := false
  deriving DecidableEq, Repr

end CoordinatorGateway
