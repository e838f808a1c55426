import CoordinatorGateway.Failure
import CoordinatorGateway.Redaction.Redact

namespace CoordinatorGateway

inductive StatusCode where
  | ok
  | cancelled
  | unknown
  | invalidArgument
  | deadlineExceeded
  | notFound
  | alreadyExists
  | permissionDenied
  | resourceExhausted
  | failedPrecondition
  | aborted
  | outOfRange
  | unimplemented
  | internal
  | unavailable
  | dataLoss
  | unauthenticated
  deriving DecidableEq, Repr

namespace StatusCode

def all : List StatusCode :=
  [.ok, .cancelled, .unknown, .invalidArgument, .deadlineExceeded, .notFound, .alreadyExists,
    .permissionDenied, .resourceExhausted, .failedPrecondition, .aborted, .outOfRange,
    .unimplemented, .internal, .unavailable, .dataLoss, .unauthenticated]

/-- A number without a code of its own is unknown. -/
def ofNumber (n : Int) : StatusCode :=
  if n < 0 then .unknown else (all[n.toNat]?).getD .unknown

def description : StatusCode → String
  | .ok => "The operation completed successfully"
  | .cancelled => "The operation was cancelled"
  | .unknown => "Unknown error"
  | .invalidArgument => "Client specified an invalid argument"
  | .deadlineExceeded => "Deadline expired before operation could complete"
  | .notFound => "Some requested entity was not found"
  | .alreadyExists => "Some entity that we attempted to create already exists"
  | .permissionDenied => "The caller does not have permission to execute the specified operation"
  | .resourceExhausted => "Some resource has been exhausted"
  | .failedPrecondition => "The system is not in a state required for the operation's execution"
  | .aborted => "The operation was aborted"
  | .outOfRange => "Operation was attempted past the valid range"
  | .unimplemented => "Operation is not implemented or not supported"
  | .internal => "Internal error"
  | .unavailable => "The service is currently unavailable"
  | .dataLoss => "Unrecoverable data loss or corruption"
  | .unauthenticated => "The request does not have valid authentication credentials"

end StatusCode

structure Status where
  code : StatusCode
  message : String
  deriving DecidableEq, Repr

namespace Status

/-- The redacted message, or the description of the code where nothing is left of it. -/
def detail (s : Status) : String :=
  let text := redact s.message
  if text.isEmpty then s.code.description else text

def cancelledText : String :=
  "The coordinator cancelled the request. This usually means no workers are connected; " ++
    "start a worker and retry."

/-- What the client is told about a call of `method` under the time limit `timeout`. -/
def failure (s : Status) (method : String) (timeout : Duration) : Failure :=
  match s.code with
  | .invalidArgument | .outOfRange => .invalidArgument s.detail
  | .notFound => .notFound s.detail
  | .alreadyExists | .aborted => .conflict s.detail
  | .unavailable => .unavailable ("Coordinator is unavailable: " ++ s.detail)
  | .resourceExhausted | .failedPrecondition => .unavailable s.detail
  | .deadlineExceeded => .timeout method timeout
  | .cancelled => .cancelled cancelledText
  | .ok | .unknown | .permissionDenied | .unimplemented | .internal | .dataLoss
  | .unauthenticated => .internal ("Coordinator error: " ++ s.detail)

end Status

end CoordinatorGateway
