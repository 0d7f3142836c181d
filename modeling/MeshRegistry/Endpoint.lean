import MeshRegistry.ServiceKey
import MeshRegistry.ProxyMode
import MeshRegistry.Json.Value

/-!
# Endpoints

One mapping from the address that the proxy listens on to the address of a container, with the
labels it is known by.
-/

namespace MeshRegistry

structure Endpoint where
  frontend : SocketAddress
  backend : SocketAddress
  service : String
  environment : String
  mode : ProxyMode
deriving DecidableEq, Repr, Inhabited

namespace Endpoint

/-- The key of an endpoint, in which its backend has no part. -/
def key (e : Endpoint) : ServiceKey :=
  .ofLabels e.service e.environment e.frontend.port

def toJson (e : Endpoint) : Json.Value :=
  .object [("frontend", .text e.frontend.text), ("backend", .text e.backend.text),
    ("service_name", .text e.service), ("environment_name", .text e.environment),
    ("proxy_mode", .text e.mode.name)]

end Endpoint

end MeshRegistry
