import CoordinatorGateway.Gateway.Basic

namespace CoordinatorGateway.Report

def packageName : String := "proofgate"

def packageVersion : String := "0.1.0"

def package : List Json.Member :=
  [("name", .string packageName), ("version", .string packageVersion)]

def success (members : List Json.Member) : Response :=
  .json 200 (Json.map (members ++ [("success", .bool true)])).render

def listing {α : Type} (name : String) (json : α → Json) (items : List α) : List Json.Member :=
  [("count", .nat items.length), (name, .array (items.map json))]

def healthy (info : ServiceInfo) : Response :=
  success [("status", .string "ok"), ("gateway", .map package),
    ("coordinator", .map [("status", .string "connected"),
      ("service_name", .string info.serviceName), ("version", .string info.version),
      ("uptime_seconds", .nat info.uptimeSeconds)])]

def unhealthy (f : Failure) : Response :=
  .json 503 (Json.map [("success", .bool false), ("status", .string "unhealthy"),
    ("code", .string f.code.spelling), ("error", .string f.message), ("gateway", .map package),
    ("coordinator", .map [("status", .string "disconnected")])]).render

def connected (endpoint : String) (info : ServiceInfo) (load : Option Load) (inFlight : Nat) :
    Response :=
  success [("status", .string "connected"), ("endpoint", .string endpoint), ("info", info.json),
    ("system", (load.map Load.json).getD .null), ("in_flight", .nat inFlight)]

def disconnected (endpoint : String) (f : Failure) (inFlight : Nat) : Response :=
  .json 200 (Json.map [("success", .bool false), ("status", .string "disconnected"),
    ("endpoint", .string endpoint), ("error", .string f.message),
    ("in_flight", .nat inFlight)]).render

def started (p : StartedProcess) : List Json.Member :=
  [("running", .bool true), ("managed", .bool true), ("process", .map p.members)]

def stopped (outcome : StopOutcome) : List Json.Member :=
  [("running", .bool false), ("result", outcome.json)]

end CoordinatorGateway.Report
