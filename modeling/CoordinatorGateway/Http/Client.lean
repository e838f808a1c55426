import CoordinatorGateway.Http.IpAddress
import CoordinatorGateway.Text.Basic
import CoordinatorGateway.Unicode.Classes

namespace CoordinatorGateway

abbrev Headers := List (String × String)

namespace Headers

/-- Visible ASCII, a space or a tab. -/
def isValueChar (c : Char) : Bool := (32 ≤ c.toNat && c.toNat < 127) || c == '\t'

/-- The value of the first header of this lower-case name, if it is visible text. -/
def value? (h : Headers) (name : String) : Option String :=
  match h.find? fun e => Text.lowerAscii e.1 == name with
  | some (_, value) => if value.toList.all isValueChar then some value else none
  | none => none

def forwardedFor? (h : Headers) : Option String :=
  match h.value? "x-forwarded-for" with
  | none => none
  | some value =>
    match Text.splitAt ',' value with
    | [] => none
    | first :: _ =>
      let client := Text.trim first
      if client.isEmpty then none else some client

end Headers

/-- The client that a trusted proxy names, and otherwise the address at the other end. -/
def clientIdentity (h : Headers) (peer : IpAddress) (trustProxy : Bool) : String :=
  if trustProxy then h.forwardedFor?.getD peer.text else peer.text

end CoordinatorGateway
