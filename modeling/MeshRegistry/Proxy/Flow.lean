import MeshRegistry.Proxy.Options
import MeshRegistry.Proxy.Container
import MeshRegistry.Proxy.Registrant

/-!
# Flows

A mapping of TCP is registered, one of UDP is relayed by the proxy itself.  A proxy is set up in a
fixed order, and the first thing that is wrong is reported to the parent before anything runs.
-/

namespace MeshRegistry.Proxy

inductive Transport where
  | tcp
  | udp
deriving DecidableEq, Repr

def Transport.name : Transport → String
  | tcp => "tcp"
  | udp => "udp"

def Transport.parse (s : String) : Except ProxyError Transport :=
  if s = "tcp" then .ok tcp
  else if s = "udp" then .ok udp
  else .error (.unsupportedProtocol s)

inductive Flow where
  | registration (registrant : Registrant)
  | relay (frontend backend : SocketAddress)
deriving DecidableEq, Repr

/-- What the host says to a program that wants to receive datagrams on an address: the address it
then has, or the kind of refusal. -/
abbrev Binder := SocketAddress → Except String SocketAddress

/-- The flow of a mapping.  A relay needs its address at once, and cannot reload. -/
def Flow.ofTransport (bind : Binder) (transport : Transport) (frontend backend : SocketAddress)
    (policy : RetryPolicy) (reload : Bool) : Except ProxyError Flow :=
  match transport with
  | .tcp => .ok (.registration ⟨frontend, backend, policy, reload⟩)
  | .udp =>
    if reload then .error (.config .reloadOfRelay)
    else
      match bind frontend with
      | .ok bound => .ok (.relay bound backend)
      | .error kind => .error (.system kind)

def Options.toFlow (o : Options) (bind : Binder) : Except ProxyError Flow := do
  let transport ← Transport.parse o.proto
  let frontend ← o.frontend
  let backend ← o.backend
  let _ ← engineSocket o.dockerSocket
  Flow.ofTransport bind transport frontend backend .standard o.reload

end MeshRegistry.Proxy
