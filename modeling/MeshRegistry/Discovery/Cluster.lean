import MeshRegistry.Discovery.Service

/-!
# Cluster documents

The clusters that a proxy is to know.
-/

namespace MeshRegistry.Discovery

structure Cluster where
  name : String
  kind : String
  connectTimeout : UInt64
  balancing : String
  serviceName : String
deriving DecidableEq, Repr

structure ClusterDocument where
  clusters : List Cluster
deriving DecidableEq, Repr

namespace Cluster

def decoder (left : Nat) : Json.Decoder Cluster :=
  Json.record "Cluster"
    (Json.within left fun _ =>
      .cons "name" Json.text .nowhere <|
      .cons "type" Json.text .nowhere <|
      .cons "connect_timeout_ms" Json.word64 .nowhere <|
      .cons "lb_type" Json.text .nowhere <|
      .cons "service_name" Json.text .nowhere .nil)
    fun (name, kind, connectTimeout, balancing, serviceName, ()) =>
      { name, kind, connectTimeout, balancing, serviceName }

def toJson (c : Cluster) : Json.Value :=
  .object [("name", .text c.name), ("type", .text c.kind),
    ("connect_timeout_ms", .int c.connectTimeout.toNat), ("lb_type", .text c.balancing),
    ("service_name", .text c.serviceName)]

end Cluster

namespace ClusterDocument

def decoder (left : Nat) : Json.Decoder ClusterDocument :=
  Json.record "ClusterDocument"
    (Json.within left fun left =>
      .cons "clusters" (Json.list (Json.within left Cluster.decoder)) .nowhere .nil)
    fun (clusters, ()) => { clusters }

def decode (s : List Char) : Except Json.Problem ClusterDocument :=
  Json.decodeAll (decoder Json.maxNesting) s

def toJson (d : ClusterDocument) : Json.Value :=
  .object [("clusters", .list (d.clusters.map Cluster.toJson))]

end ClusterDocument

end MeshRegistry.Discovery
