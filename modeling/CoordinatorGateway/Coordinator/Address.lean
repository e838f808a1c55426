import CoordinatorGateway.Http.Uri
import CoordinatorGateway.Settings.Basic
import CoordinatorGateway.Unicode.Classes

namespace CoordinatorGateway

/-- The trimmed address, taken to be plain HTTP where it names no scheme. -/
def Address.normalize (address : String) : String :=
  let address := Text.trim address
  if Text.occursIn [':', '/', '/'] address.toList then address else "http://" ++ address

structure Remote where
  /-- As it is configured. -/
  address : String
  timeout : Duration

namespace Remote

def ofSettings (s : CoordinatorSettings) : Remote := ⟨s.url, .ofMillis s.rpcTimeoutMs⟩

def endpoint (r : Remote) : String := Address.normalize r.address

/-- The server that calls go to, if the endpoint can be read. -/
def target? (r : Remote) : Option Uri := Uri.read? r.endpoint

end Remote

end CoordinatorGateway
