import MeshRegistry.Address.Ipv6

/-!
# Addresses and socket addresses

An address is read as IPv4 first and as IPv6 otherwise.  A socket address adds a port, and for IPv6
the number of the link it belongs to, which is written only when it is not zero.
-/

namespace MeshRegistry

abbrev Port := UInt16

inductive Ip where
  | v4 (ip : Ipv4)
  | v6 (ip : Ipv6)
deriving DecidableEq, Repr, Inhabited

def Ip.text : Ip → String
  | .v4 ip => String.ofList ip.text
  | .v6 ip => String.ofList ip.text

def Ip.read (s : List Char) : Option (Ip × List Char) :=
  match Ipv4.read s with
  | some (ip, rest) => some (.v4 ip, rest)
  | none => (Ipv6.read s).map fun (ip, rest) => (.v6 ip, rest)

def Ip.parse? (s : List Char) : Option Ip :=
  match Ip.read s with
  | some (ip, []) => some ip
  | _ => none

inductive SocketAddress where
  | v4 (ip : Ipv4) (port : Port)
  | v6 (ip : Ipv6) (port : Port) (link : UInt32)
deriving DecidableEq, Repr, Inhabited

namespace SocketAddress

open Address

/-- An address and a port, on no particular link. -/
def ofIp : Ip → Port → SocketAddress
  | .v4 ip, port => .v4 ip port
  | .v6 ip, port => .v6 ip port 0

def ip : SocketAddress → Ip
  | .v4 ip _ => .v4 ip
  | .v6 ip _ _ => .v6 ip

def port : SocketAddress → Port
  | .v4 _ port => port
  | .v6 _ port _ => port

def text : SocketAddress → String
  | .v4 ip port => String.ofList (ip.text ++ ':' :: Nat.toDigits 10 port.toNat)
  | .v6 ip port link =>
    let zone := if link = 0 then [] else '%' :: Nat.toDigits 10 link.toNat
    String.ofList ('[' :: ip.text ++ zone ++ ']' :: ':' :: Nat.toDigits 10 port.toNat)

def readPort? (s : List Char) : Option Port := do
  match ← readBounded 65535 (← readChar ':' s) with
  | (n, []) => some (UInt16.ofNat n)
  | _ => none

/-- The link number behind a percent sign, zero when there is none. -/
def readLink (s : List Char) : UInt32 × List Char :=
  match (readChar '%' s).bind (readBounded 4294967295) with
  | some (n, rest) => (UInt32.ofNat n, rest)
  | none => (0, s)

def parse? (s : List Char) : Option SocketAddress :=
  match Ipv4.read s with
  | some (ip, rest) => (readPort? rest).map (.v4 ip)
  | none => do
    let (ip, rest) ← Ipv6.read (← readChar '[' s)
    let (link, rest) := readLink rest
    return .v6 ip (← readPort? (← readChar ']' rest)) link

end SocketAddress

end MeshRegistry
