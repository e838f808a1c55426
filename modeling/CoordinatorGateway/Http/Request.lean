import CoordinatorGateway.Failure
import CoordinatorGateway.Http.Client
import CoordinatorGateway.Http.IpAddress
import CoordinatorGateway.Http.Uri
import CoordinatorGateway.Text.Basic

namespace CoordinatorGateway

/-- The bytes that arrive, and whether the connection breaks off after them. -/
structure Body where
  bytes : Bytes
  broken : Bool
  deriving DecidableEq, Repr

namespace Body

/-- In bytes. -/
def maxLength : Nat := 65536

/-- The whole body. A body that is too long is refused before it breaks off. -/
def read (b : Body) : Except Failure Bytes :=
  if maxLength < b.bytes.length then
    .error (.invalidArgument ("Request body exceeds " ++ toString maxLength ++ " bytes"))
  else if b.broken then .error (.invalidArgument "Could not read request body")
  else .ok b.bytes

end Body

structure Request where
  /-- In upper case where it is a standard one. -/
  method : String
  target : Uri
  headers : Headers
  body : Body
  /-- The address at the other end. -/
  peer : IpAddress

end CoordinatorGateway
