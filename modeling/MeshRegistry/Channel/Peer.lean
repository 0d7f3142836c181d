import MeshRegistry.Channel.Call

/-!
# The other end of a call

What answers the calls made to one socket: nobody, a registry, or a listener that behaves as it was
told on each connection.  Every call has a connection of its own.
-/

namespace MeshRegistry.Channel

open Text (Bytes)

/-- How a listener treats one connection once it has read the request. -/
inductive Behaviour where
  | close
  | silent
  | send (bytes : Bytes)
deriving DecidableEq, Repr

inductive Peer where
  | absent (cause : Unreachable)
  | registry (registry : Registry)
  | scripted (next : Behaviour) (later : List Behaviour)

namespace Peer

def heardFrom : Behaviour → Heard
  | .close => .bytes []
  | .silent => .silence
  | .send bytes => .bytes bytes

/-- A call: what the caller hears, the request that arrived, and what answers the next call.  The
last behaviour of a script repeats. -/
def call (p : Peer) (request : Request) : Heard × Option Request × Peer :=
  match p with
  | absent cause => (.unreachable cause, none, p)
  | registry r =>
    let c := Connection.run standardMaxLine r [requestLine request] .closed
    (.bytes c.sent, c.exchanges.head?.bind (·.request), registry c.registry)
  | scripted next later =>
    (heardFrom next, some request,
      match later with
      | [] => scripted next []
      | b :: rest => scripted b rest)

end Peer

/-- A peer and what was asked of it so far. -/
structure Line where
  peer : Peer
  attempts : Nat
  requests : List Request

def Caller.attempt (c : Caller) (request : Request) (l : Line) :
    Except CallError Reply × Line :=
  let (heard, arrived, peer) := l.peer.call request
  (c.outcome heard, ⟨peer, l.attempts + 1, l.requests ++ arrived.toList⟩)

def Caller.register (c : Caller) (policy : RetryPolicy) (request : Request) (l : Line) :
    Except CallError Reply × Line :=
  policy.run CallError.isRetryable (fun _ => c.attempt request) (fun _ => id) l

end MeshRegistry.Channel
