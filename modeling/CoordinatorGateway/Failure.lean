import CoordinatorGateway.Duration
import CoordinatorGateway.Json.Printer

namespace CoordinatorGateway

structure Response where
  status : Nat
  headers : List (String × String)
  body : String
  deriving DecidableEq, Repr

namespace Response

def empty (status : Nat) : Response := ⟨status, [], ""⟩

def json (status : Nat) (body : String) : Response :=
  ⟨status, [("content-type", "application/json")], body⟩

/-- The header gets this value, whatever it had before. -/
def setHeader (r : Response) (name value : String) : Response :=
  { r with headers := r.headers.filter (fun h => h.1 != name) ++ [(name, value)] }

def header? (r : Response) (name : String) : Option String :=
  (r.headers.find? fun h => h.1 == name).map Prod.snd

end Response

inductive FailureCode where
  | invalidArgument
  | rateLimited
  | conflict
  | unavailable
  | notFound
  | timeout
  | cancelled
  | notImplemented
  | internal
  deriving DecidableEq, Repr

namespace FailureCode

def status : FailureCode → Nat
  | .invalidArgument => 400
  | .rateLimited => 429
  | .conflict => 409
  | .unavailable => 503
  | .notFound => 404
  | .timeout => 504
  | .cancelled => 503
  | .notImplemented => 501
  | .internal => 500

def label : FailureCode → String
  | .invalidArgument => "INVALID_ARGUMENT"
  | .rateLimited => "RATE_LIMITED"
  | .conflict => "CONFLICT"
  | .unavailable => "UNAVAILABLE"
  | .notFound => "NOT_FOUND"
  | .timeout => "TIMEOUT"
  | .cancelled => "CANCELLED"
  | .notImplemented => "NOT_IMPLEMENTED"
  | .internal => "INTERNAL"

def name : FailureCode → String
  | .invalidArgument => "InvalidArgument"
  | .rateLimited => "RateLimited"
  | .conflict => "Conflict"
  | .unavailable => "Unavailable"
  | .notFound => "NotFound"
  | .timeout => "Timeout"
  | .cancelled => "Cancelled"
  | .notImplemented => "NotImplemented"
  | .internal => "Internal"

/-- A name whose words begin with capitals, in capitals throughout and with underscores between its
words. -/
def capitalWords : List Char → List Char
  | [] => []
  | c :: cs => c.toUpper :: cs.flatMap fun c => if c.isUpper then ['_', c] else [c.toUpper]

def spelling (code : FailureCode) : String := String.ofList (capitalWords code.name.toList)

end FailureCode

inductive Failure where
  | invalidArgument (text : String)
  | rateLimited (limit : Nat) (window retryAfter : Duration)
  | conflict (text : String)
  | unavailable (text : String)
  | notFound (text : String)
  | timeout (method : String) (limit : Duration)
  | cancelled (text : String)
  | notImplemented (text : String)
  | internal (text : String)
  deriving DecidableEq, Repr

namespace Failure

def code : Failure → FailureCode
  | .invalidArgument _ => .invalidArgument
  | .rateLimited _ _ _ => .rateLimited
  | .conflict _ => .conflict
  | .unavailable _ => .unavailable
  | .notFound _ => .notFound
  | .timeout _ _ => .timeout
  | .cancelled _ => .cancelled
  | .notImplemented _ => .notImplemented
  | .internal _ => .internal

def message : Failure → String
  | .invalidArgument text => text
  | .rateLimited limit window retryAfter =>
    "Too many requests: limit is " ++ toString limit ++ " per " ++ toString window.seconds ++
      "s, retry in " ++ toString retryAfter.secondsRoundedUp ++ "s"
  | .conflict text => text
  | .unavailable text => text
  | .notFound text => text
  | .timeout method limit =>
    "Coordinator call '" ++ method ++ "' timed out after " ++ toString limit.millis ++
      "ms. Check that the coordinator is running and reachable, " ++
      "and that at least one worker is connected and idle."
  | .cancelled text => text
  | .notImplemented text => text
  | .internal text => text

def retryAfter? : Failure → Option Duration
  | .rateLimited _ _ retryAfter => some retryAfter
  | _ => none

end Failure

def FailureCode.body (code : FailureCode) (text : String) (retryAfter : Option Duration) : Json :=
  .object ([("success", .bool false), ("code", .string code.spelling), ("error", .string text),
    ("status", .nat code.status)] ++
      Json.optional "retry_after_ms" (retryAfter.map fun d => .nat d.millis64))

namespace Failure

def body (f : Failure) : Json := f.code.body f.message f.retryAfter?

def response (f : Failure) : Response :=
  let r := (Response.json f.code.status f.body.render).setHeader "x-gateway-error" f.code.label
  match f.retryAfter? with
  | some d => r.setHeader "retry-after" (toString d.secondsRoundedUp)
  | none => r

end Failure

end CoordinatorGateway
