import CoordinatorGateway.Json.Printer

namespace CoordinatorGateway

inductive Decision where
  | allowed
  | rejected
  | succeeded
  | failed
  deriving DecidableEq, Repr

def Decision.label : Decision → String
  | .allowed => "allowed"
  | .rejected => "rejected"
  | .succeeded => "succeeded"
  | .failed => "failed"

structure AuditEvent where
  name : String
  client : Option String := none
  decision : Option Decision := none
  reason : Option String := none
  /-- In the order in which they were added. -/
  fields : List Json.Member := []

/-- The event as it is recorded at the time. The fixed members come first, and the fields follow
by key, of equal keys the last one. -/
def AuditEvent.json (time : String) (e : AuditEvent) : Json :=
  .object ([("event", .string e.name), ("timestamp", .string time)] ++
    Json.optional "client" (e.client.map .string) ++
    Json.optional "decision" (e.decision.map fun d => .string d.label) ++
    Json.optional "reason" (e.reason.map .string) ++ Json.sortMembers e.fields)

end CoordinatorGateway
