import MeshRegistry.Proxy.Error
import MeshRegistry.Text.Case
import Std.Data.ExtTreeMap

/-!
# Containers

The engine lists containers with the ports they publish and the labels they carry.  A registration
takes its names from the labels of the first container that publishes its port.
-/

namespace MeshRegistry.Proxy

inductive PortKind where
  | tcp
  | udp
  | sctp
deriving DecidableEq, Repr

/-- A port of a container, and the port of the host that it is published on. -/
structure PublishedPort where
  privatePort : Port
  publicPort : Option Port
  kind : Option PortKind
deriving DecidableEq, Repr

structure Container where
  ports : List PublishedPort
  labels : Std.ExtTreeMap String String

structure Labels where
  service : String
  environment : String
  mode : String
deriving DecidableEq, Repr, Inhabited

namespace Container

def publishes (c : Container) (port : Port) : Bool :=
  c.ports.any fun p => p.publicPort == some port

def label (c : Container) (name : String) : String :=
  c.labels[name]?.getD ""

/-- The mode of a container in small letters; without a mode it is `http`. -/
def mode (c : Container) : String :=
  let mode := String.ofList (Text.lower (c.label "ProxyMode").toList)
  if mode.isEmpty then "http" else mode

def toLabels (c : Container) : Labels :=
  ⟨c.label "ServiceName", c.label "EnvironmentName", c.mode⟩

end Container

def labelsForPort? (listing : List Container) (port : Port) : Option Labels :=
  (listing.find? (·.publishes port)).map Container.toLabels

def noContainer : String := "no container publishes this port"

def lookup (listing : List Container) (port : Port) : Except ProxyError Labels :=
  match labelsForPort? listing port with
  | some labels => .ok labels
  | none => .error (.lookup port noContainer)

def occursIn (needle : List Char) : List Char → Bool
  | [] => needle.isEmpty
  | c :: rest => needle.isPrefixOf (c :: rest) || occursIn needle rest

/-- The socket of the engine, from an address with or without the scheme of sockets; other schemes
are refused. -/
def engineSocket (host : String) : Except ProxyError String :=
  if Channel.unixScheme.toList.isPrefixOf host.toList then .ok (Channel.socketPath host)
  else if occursIn "://".toList host.toList then .error (.config (.dockerHost host))
  else .ok host

end MeshRegistry.Proxy
