import MeshRegistry.Discovery.Listener
import MeshRegistry.Registration.Registrar
import MeshRegistry.Text.Utf8
import MeshRegistry.Time.Instant

/-!
# Documents of a registry

Each entry is shown as a host, a cluster and a listener, and the documents hold what a walk of the
registry hands out, sorted by name in byte order.  An entry whose mode is `tcp` is shown like any
other.
-/

namespace MeshRegistry.Discovery

/-- The milliseconds that a proxy may take to connect. -/
def connectTimeout : UInt64 := 500

/-- The host behind an endpoint, seen at the time on a clock. -/
def hostFor (clock : Time.Clock) (e : Endpoint) : Host :=
  { ipAddress := e.backend.ip.text
    lastCheckIn := clock.text
    port := e.backend.port
    revision := "1"
    service := e.key.text
    repository := "docker service"
    tags := ∅ }

def clusterFor (e : Endpoint) : Cluster :=
  { name := e.key.text
    kind := "sds"
    connectTimeout := connectTimeout
    balancing := "round_robin"
    serviceName := e.key.text }

def routerFilter : Filter :=
  .mk "router" (.mk none none none [] none)

/-- The listener of an endpoint: every host name and path goes to its cluster. -/
def listenerFor (e : Endpoint) : Listener :=
  let name := e.key.text
  let host : VirtualHost :=
    { name := name
      domains := ["*"]
      routes := [{ timeout := 0, path := "/", newHost := "", cluster := name }] }
  let manager : Filter :=
    .mk "envoy.http_connection_manager"
      (.mk (some "auto") (some "ingress_http") (some { virtualHosts := [host], routes := [] })
        [routerFilter] (some { operation := "egress" }))
  { name := name
    address := "tcp://" ++ e.frontend.text
    filters := [manager] }

/-- Does the first text come before the second in byte order, or are they the same? -/
def byteLe (a b : String) : Bool :=
  decide (Text.bytes a ≤ Text.bytes b)

def sortByName {α : Type} (name : α → String) (l : List α) : List α :=
  l.mergeSort fun a b => byteLe (name a) (name b)

end MeshRegistry.Discovery

namespace MeshRegistry.Registry

open Discovery

/-- What a walk collects, and what the log keeps when it breaks off. -/
def collect {α : Type} (r : Registry) (log : Log) (w : Walk) (project : Endpoint → α) :
    List α × List Event :=
  let (seen, ending) := r.forEach w (fun seen _ e => (seen ++ [project e], none)) []
  (seen, log.keep (ending.toList.map fun e => .walkBroken e seen.length))

def serviceDocument (r : Registry) (clock : Time.Clock) (name : String) :
    Except RegistryError ServiceDocument :=
  match r.get? name with
  | none => .error (.serviceNotFound name)
  | some e =>
    .ok { environment := e.environment, hosts := [hostFor clock e], service := name }

def clusterDocument (r : Registry) (log : Log) (w : Walk) : ClusterDocument × List Event :=
  let (clusters, events) := r.collect log w clusterFor
  ({ clusters := sortByName Cluster.name clusters }, events)

def listenerDocument (r : Registry) (log : Log) (w : Walk) : ListenerDocument × List Event :=
  let (listeners, events) := r.collect log w listenerFor
  ({ listeners := sortByName Listener.name listeners }, events)

end MeshRegistry.Registry
