import MeshRegistry.Http.Message
import MeshRegistry.Json.Decode
import MeshRegistry.Proxy.Container

/-!
# Listings of containers

The engine answers with a list of records, of which the ports and labels matter here.  The other
fields are checked and dropped.
-/

namespace MeshRegistry.Proxy

def PortKind.ofWord (s : String) : Except Json.Problem (Option PortKind) :=
  match s with
  | "" => .ok none
  | "tcp" => .ok (some .tcp)
  | "udp" => .ok (some .udp)
  | "sctp" => .ok (some .sctp)
  | _ => .error (.unknownVariant s ["", "tcp", "udp", "sctp"])

def PublishedPort.decoder (left : Nat) : Json.Decoder PublishedPort :=
  Json.record "Port"
    (Json.within left fun _ =>
      .nullable "IP" Json.text <|
      .cons "PrivatePort" Json.word16 .nowhere <|
      .nullable "PublicPort" Json.word16 <|
      .cons "Type" (Json.optional (Json.word PortKind.ofWord)) .nowhere .nil)
    fun (_, privatePort, publicPort, kind, ()) => { privatePort, publicPort, kind := kind.join }

def textsDecoder (left : Nat) : Json.Decoder (List String) :=
  Json.list (Json.within left fun _ => Json.text)

def labelsDecoder (left : Nat) : Json.Decoder (Std.ExtTreeMap String String) :=
  Json.entries (Json.within left fun _ => Json.text)

/-- Checks the part of the host's settings that a listing shows. -/
def checkHostSettings (left : Nat) : Json.Decoder Unit :=
  Json.record "ContainerSummaryHostConfig"
    (Json.within left fun _ => .nullable "NetworkMode" Json.text .nil) fun _ => ()

def checkAddressSettings (left : Nat) : Json.Decoder Unit :=
  Json.record "EndpointIpamConfig"
    (Json.within left fun left =>
      .nullable "IPv4Address" Json.text <|
      .nullable "IPv6Address" Json.text <|
      .nullable "LinkLocalIPs" (textsDecoder left) .nil)
    fun _ => ()

def checkAttachment (left : Nat) : Json.Decoder Unit :=
  Json.record "EndpointSettings"
    (Json.within left fun left =>
      .nullable "IPAMConfig" (checkAddressSettings left) <|
      .nullable "Links" (textsDecoder left) <|
      .nullable "MacAddress" Json.text <|
      .nullable "Aliases" (textsDecoder left) <|
      .nullable "NetworkID" Json.text <|
      .nullable "EndpointID" Json.text <|
      .nullable "Gateway" Json.text <|
      .nullable "IPAddress" Json.text <|
      .nullable "IPPrefixLen" Json.int64 <|
      .nullable "IPv6Gateway" Json.text <|
      .nullable "GlobalIPv6Address" Json.text <|
      .nullable "GlobalIPv6PrefixLen" Json.int64 <|
      .nullable "DriverOpts" (labelsDecoder left) <|
      .nullable "DNSNames" (textsDecoder left) .nil)
    fun _ => ()

def checkNetworks (left : Nat) : Json.Decoder Unit :=
  Json.record "ContainerSummaryNetworkSettings"
    (Json.within left fun left =>
      .nullable "Networks" (Json.entries (Json.within left checkAttachment)) .nil)
    fun _ => ()

/-- The kinds of mounts; the empty word names none. -/
def mountKinds : List String := ["", "bind", "volume", "tmpfs", "npipe", "cluster"]

def checkMountKind (s : String) : Except Json.Problem Unit :=
  if s ∈ mountKinds then .ok () else .error (.unknownVariant s mountKinds)

def checkMount (left : Nat) : Json.Decoder Unit :=
  Json.record "MountPoint"
    (Json.within left fun left =>
      .nullable "Type" (Json.named checkMountKind left) <|
      .nullable "Name" Json.text <|
      .nullable "Source" Json.text <|
      .nullable "Destination" Json.text <|
      .nullable "Driver" Json.text <|
      .nullable "Mode" Json.text <|
      .nullable "RW" Json.boolean <|
      .nullable "Propagation" Json.text .nil)
    fun _ => ()

def Container.decoder (left : Nat) : Json.Decoder Container :=
  Json.record "ContainerSummary"
    (Json.within left fun left =>
      .nullable "Id" Json.text <|
      .nullable "Names" (textsDecoder left) <|
      .nullable "Image" Json.text <|
      .nullable "ImageID" Json.text <|
      .nullable "Command" Json.text <|
      .nullable "Created" Json.int64 <|
      .nullable "Ports" (Json.list (Json.within left PublishedPort.decoder)) <|
      .nullable "SizeRw" Json.int64 <|
      .nullable "SizeRootFs" Json.int64 <|
      .nullable "Labels" (labelsDecoder left) <|
      .nullable "State" Json.text <|
      .nullable "Status" Json.text <|
      .nullable "HostConfig" (checkHostSettings left) <|
      .nullable "NetworkSettings" (checkNetworks left) <|
      .nullable "Mounts" (Json.list (Json.within left checkMount)) .nil)
    fun (_, _, _, _, _, _, ports, _, _, labels, _) =>
      { ports := ports.getD [], labels := labels.getD ∅ }

def decodeListing (s : List Char) : Except Json.Problem (List Container) :=
  Json.decodeAll (Json.list (Json.within Json.maxNesting Container.decoder)) s

/-- The listing in an answer, or why there is none.  Only the statuses of success count, and `204`
comes without a body. -/
def listingIn (a : Http.Answer) : Except String (List Container) :=
  if a.status < 200 ∨ 299 < a.status then
    .error ("the engine answered with status " ++ a.status.repr)
  else
    match decodeListing (if a.status = 204 then [] else a.body) with
    | .ok listing => .ok listing
    | .error p => .error ("malformed listing: " ++ p.message)

/-- The labels for a port, from the answer of an engine if it gave one. -/
def labelsFromEngine (answer : Option Http.Answer) (port : Port) : Except ProxyError Labels :=
  match answer.elim (.error "the engine did not answer") listingIn with
  | .error reason => .error (.lookup port reason)
  | .ok listing => lookup listing port

end MeshRegistry.Proxy
