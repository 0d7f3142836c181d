import MeshRegistry.Registration.Reply
import MeshRegistry.Address.Socket

/-!
# Service documents

The hosts behind one service.
-/

namespace MeshRegistry.Discovery

structure Host where
  ipAddress : String
  lastCheckIn : String
  port : Port
  revision : String
  service : String
  repository : String
  tags : Std.ExtTreeMap String String

structure ServiceDocument where
  environment : String
  hosts : List Host
  service : String

namespace Host

def decoder (left : Nat) : Json.Decoder Host :=
  Json.record "ServiceHost"
    (Json.within left fun left =>
      .cons "ip_address" Json.text .nowhere <|
      .cons "last_check_in" Json.text .nowhere <|
      .cons "port" Json.word16 .nowhere <|
      .cons "revision" Json.text .nowhere <|
      .cons "service" Json.text .nowhere <|
      .cons "service_repo_name" Json.text .nowhere <|
      .cons "tags" (Json.entries (Json.within left fun _ => Json.text)) .nowhere .nil)
    fun (ipAddress, lastCheckIn, port, revision, service, repository, tags, ()) =>
      { ipAddress, lastCheckIn, port, revision, service, repository, tags }

/-- A host with its tags as they are listed here. -/
def toJsonListing (h : Host) (tags : List (String × String)) : Json.Value :=
  .object [("ip_address", .text h.ipAddress), ("last_check_in", .text h.lastCheckIn),
    ("port", .int h.port.toNat), ("revision", .text h.revision), ("service", .text h.service),
    ("service_repo_name", .text h.repository),
    ("tags", .object (tags.map fun (k, v) => (k, .text v)))]

/-- A host with its tags in the order of their names. -/
def toJson (h : Host) : Json.Value :=
  h.toJsonListing h.tags.toList

end Host

namespace ServiceDocument

def decoder (left : Nat) : Json.Decoder ServiceDocument :=
  Json.record "ServiceDocument"
    (Json.within left fun left =>
      .cons "env" Json.text .nowhere <|
      .cons "hosts" (Json.list (Json.within left Host.decoder)) .nowhere <|
      .cons "service" Json.text .nowhere .nil)
    fun (environment, hosts, service, ()) => { environment, hosts, service }

def decode (s : List Char) : Except Json.Problem ServiceDocument :=
  Json.decodeAll (decoder Json.maxNesting) s

/-- A document with its hosts as they are written here. -/
def toJsonListing (d : ServiceDocument) (hosts : List Json.Value) : Json.Value :=
  .object [("env", .text d.environment), ("hosts", .list hosts), ("service", .text d.service)]

def toJson (d : ServiceDocument) : Json.Value :=
  d.toJsonListing (d.hosts.map Host.toJson)

end ServiceDocument

end MeshRegistry.Discovery
