import MeshRegistry.Address.Socket
import MeshRegistry.Text.Utf8

/-!
# Relays

A relay passes datagrams on.  Each client has a socket of its own towards the backend, so that what
comes back on it belongs to that client.  One loop receives from the clients; for every socket a
loop of its own waits for replies, and takes its client out of the table when it ends.

The loops run side by side and share the table alone.  What happens is given to `step` one piece at a
time, in any order; a piece looks at the table or changes it once, and one that cannot happen where
the relay stands changes nothing.
-/

namespace MeshRegistry.Proxy

open Text (Bytes)

/-- The longest datagram that is passed on. -/
def maxDatagram : Nat := 65507

/-- A socket towards the backend, by the order in which they were opened. -/
abbrev Outlet := Nat

/-- Where the loop that receives from clients stands. -/
inductive Receiver where
  | ready
  | opening (client : SocketAddress) (payload : Bytes)
  | sending (client : SocketAddress) (outlet : Outlet) (payload : Bytes)
  | stopped
deriving DecidableEq, Repr

/-- Where a loop that waits for replies stands. -/
inductive Waiter where
  | waiting
  | passing (payload : Bytes)
  | leaving
  | gone
deriving DecidableEq, Repr

/-- What can happen to a loop that waits for replies. -/
inductive Turn where
  /-- A reply comes in. -/
  | reply (payload : Bytes)
  /-- Passing the reply on to the client ends. -/
  | passed (isSent : Bool)
  /-- Receiving from the backend fails. -/
  | failed
  /-- No reply came for too long. -/
  | idle
  /-- The loop notices that somebody asked the relay to stop. -/
  | stopNoticed
  /-- The loop takes its client out of the table. -/
  | left
deriving DecidableEq, Repr

def Waiter.after (isStopRequested : Bool) : Waiter → Turn → Waiter
  | .waiting, .reply payload => .passing (payload.take maxDatagram)
  | .waiting, .failed => .leaving
  | .waiting, .idle => .leaving
  | .waiting, .stopNoticed => if isStopRequested then .leaving else .waiting
  | .passing _, .passed true => .waiting
  | .passing _, .passed false => .leaving
  | .leaving, .left => .gone
  | w, _ => w

/-- A datagram on its way between a client and a socket towards the backend. -/
structure Passage where
  client : SocketAddress
  outlet : Outlet
  payload : Bytes
deriving DecidableEq, Repr

/-- A loop that passes the replies on a socket on to a client. -/
structure ReplyLoop where
  client : SocketAddress
  outlet : Outlet
  stage : Waiter
deriving DecidableEq, Repr

/-- What a loop has passed on when its turn ends. -/
def ReplyLoop.passage? (l : ReplyLoop) (t : Turn) : Option Passage :=
  match l.stage, t with
  | .passing payload, .passed true => some ⟨l.client, l.outlet, payload⟩
  | _, _ => none

/-- A relay at work, with the clients its sockets were opened for and all that it has passed on. -/
structure Relay where
  receiver : Receiver
  table : List (SocketAddress × Outlet)
  sockets : List SocketAddress
  loops : List ReplyLoop
  stopRequested : Bool
  sent : List Passage
  delivered : List Passage
deriving DecidableEq, Repr

namespace Relay

inductive Happening where
  /-- A datagram comes in from a client. -/
  | datagram (client : SocketAddress) (payload : Bytes)
  /-- Receiving from the clients fails. -/
  | receiveFailed
  /-- Opening a socket towards the backend ends. -/
  | opened (isOpen : Bool)
  /-- Sending to the backend ends. -/
  | forwarded (isSent : Bool)
  /-- Somebody asks the relay to stop. -/
  | stopRequested
  /-- The loop that receives from clients notices that it was asked to stop. -/
  | stopNoticed
  /-- A loop that waits for replies has its turn. -/
  | turn (index : Nat) (t : Turn)
deriving DecidableEq, Repr

def start : Relay := ⟨.ready, [], [], [], false, [], []⟩

def outlet? (r : Relay) (client : SocketAddress) : Option Outlet :=
  (r.table.find? (·.1 = client)).map (·.2)

/-- The table without a client. -/
def without (table : List (SocketAddress × Outlet)) (client : SocketAddress) :
    List (SocketAddress × Outlet) :=
  table.filter (·.1 ≠ client)

/-- A datagram of a client is to be passed on. -/
def receive (r : Relay) (client : SocketAddress) (payload : Bytes) : Relay :=
  { r with receiver := match r.outlet? client with
      | some outlet => .sending client outlet payload
      | none => .opening client payload }

/-- A new socket of a client goes into the table, and its loop begins. -/
def register (r : Relay) (client : SocketAddress) (payload : Bytes) : Relay :=
  let outlet := r.sockets.length
  { r with
    receiver := .sending client outlet payload
    table := (client, outlet) :: without r.table client
    sockets := r.sockets ++ [client]
    loops := r.loops ++ [⟨client, outlet, .waiting⟩] }

/-- A loop has its turn. -/
def turn (r : Relay) (index : Nat) (t : Turn) : Relay :=
  match r.loops[index]? with
  | none => r
  | some l =>
    { r with
      table := if l.stage = .leaving ∧ t = .left then without r.table l.client else r.table
      loops := r.loops.set index { l with stage := l.stage.after r.stopRequested t }
      delivered := r.delivered ++ (l.passage? t).toList }

def step (r : Relay) (h : Happening) : Relay :=
  match h, r.receiver with
  | .datagram client payload, .ready => r.receive client (payload.take maxDatagram)
  | .opened true, .opening client payload => r.register client payload
  | .opened false, .opening _ _ => { r with receiver := .ready }
  | .forwarded true, .sending client outlet payload =>
    { r with receiver := .ready, sent := r.sent ++ [⟨client, outlet, payload⟩] }
  | .forwarded false, .sending _ _ _ => { r with receiver := .ready }
  | .stopRequested, _ => { r with stopRequested := true }
  | .stopNoticed, .ready =>
    if r.stopRequested then { r with receiver := .stopped, table := [] } else r
  | .turn index t, _ => r.turn index t
  | _, _ => r

/-- What a relay has come to after all that happened. -/
def run (happenings : List Happening) : Relay :=
  happenings.foldl step start

end Relay

end MeshRegistry.Proxy
