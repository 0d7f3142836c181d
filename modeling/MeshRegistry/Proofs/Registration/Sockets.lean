import MeshRegistry.Proofs.Address.Compressed
import MeshRegistry.Registration.Request

/-!
# Requests about socket addresses

A request carries the address and the port of each side as it was given, and not the link that an IPv6
address may belong to.
-/

namespace MeshRegistry

namespace SocketAddress

/-- The number of the link that an address belongs to, zero if it says none. -/
def link : SocketAddress → UInt32
  | .v4 _ _ => 0
  | .v6 _ _ link => link

/-- The address and the port alone. -/
def unlinked (a : SocketAddress) : SocketAddress :=
  .ofIp a.ip a.port

theorem unlinked_eq_iff {a : SocketAddress} : a.unlinked = a ↔ a.link = 0 := by
  cases a with
  | v4 ip port => simp [unlinked, SocketAddress.ip, SocketAddress.port, ofIp, link]
  | v6 ip port n => simp [unlinked, SocketAddress.ip, SocketAddress.port, ofIp, link, eq_comm]

end SocketAddress

namespace Request

theorem readIp_text (side : Side) (ip : Ip) : readIp side ip.text = .ok ip := by
  rw [readIp, Ip.parse?_trim_text]

/-- The addresses that a request describes are those that it was made from, but for their links. -/
theorem toEndpoint_ofSockets (frontend backend : SocketAddress) (service environment name : String)
    (action : Action) :
    ((ofSockets frontend backend service environment name).withAction action).toEndpoint =
      (ProxyMode.parse name).map fun mode =>
        ⟨frontend.unlinked, backend.unlinked, service, environment, mode⟩ := by
  have hfrontend := readIp_text .frontend frontend.ip
  have hbackend := readIp_text .backend backend.ip
  cases hmode : ProxyMode.parse name with
  | ok mode =>
      simp [toEndpoint, ofSockets, withAction, hfrontend, hbackend, hmode, bind, Except.bind, pure,
        Except.pure, Except.map, SocketAddress.unlinked]
  | error e =>
      simp [toEndpoint, ofSockets, withAction, hfrontend, hbackend, hmode, bind, Except.bind,
        Except.map]

end Request

end MeshRegistry
