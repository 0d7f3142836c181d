import MeshRegistry.Channel.Connection
import MeshRegistry.Retry
import MeshRegistry.Time.Span

/-!
# Calls to the registry

A call opens a connection, sends one request and reads one line.  Whether it may be tried again
depends on what went wrong: a connection may come up yet, but a reply that was read stays as it is.
-/

namespace MeshRegistry.Channel

open Text (Bytes)

def standardSocket : String := "/tmp/docker-envoy.sock"

def unixScheme : String := "unix://"

def socketPath (address : String) : String :=
  if unixScheme.toList.isPrefixOf address.toList then
    String.ofList (address.toList.drop unixScheme.length)
  else address

/-- The nanoseconds that a call may take if nothing else is said. -/
def standardDeadline : Nat := 50000000

inductive Unreachable where
  | missing
  | refused
deriving DecidableEq, Repr

def Unreachable.message : Unreachable → String
  | .missing => "No such file or directory (os error 2)"
  | .refused => "Connection refused (os error 111)"

inductive Breakage where
  | notUtf8
  | other (text : String)
deriving DecidableEq, Repr

def Breakage.message : Breakage → String
  | .notUtf8 => "stream did not contain valid UTF-8"
  | .other text => text

inductive CallError where
  | unreachable (socket : String) (cause : Unreachable)
  | deadline (nanos : Nat)
  | broken (cause : Breakage)
  | malformed (problem : Json.Problem)
  | closed
  | rejected (reason : String)
deriving DecidableEq, Repr

namespace CallError

/-- What is shown of a failed call, without the ` at line L column C` that stands behind the problem of
a malformed message. -/
def message : CallError → String
  | unreachable socket cause => "can't connect to " ++ socket ++ ": " ++ cause.message
  | deadline nanos => "context deadline exceeded after " ++ Time.spanText nanos
  | broken cause => "registration channel i/o: " ++ cause.message
  | malformed problem => "malformed message: " ++ problem.message
  | closed => "connection closed before a reply arrived"
  | rejected reason => "registrar refused request: " ++ reason

def isRetryable : CallError → Bool
  | unreachable .. | deadline _ | broken _ | closed => true
  | malformed _ | rejected _ => false

end CallError

/-- What a caller hears: nothing at all, nothing in time, or bytes until the other side closes. -/
inductive Heard where
  | unreachable (cause : Unreachable)
  | silence
  | bytes (received : Bytes)
deriving DecidableEq, Repr

/-- Where a caller calls, and how long it waits, in nanoseconds. -/
structure Caller where
  socket : String
  deadline : Nat
deriving DecidableEq, Repr

def requestLine (r : Request) : Bytes :=
  Text.Utf8.encode r.toJson.write ++ [lineFeed]

def readReply (received : Bytes) : Except CallError Reply :=
  let (line, rest) := splitLine received
  if line.isEmpty ∧ rest.isNone then .error .closed
  else
    match Text.Utf8.decode line with
    | none => .error (.broken .notUtf8)
    | some text =>
      match Reply.decode (Text.trimEnd text) with
      | .error p => .error (.malformed p)
      | .ok reply => .ok reply

/-- A reply that reports no success is a failure of the call. -/
def accepted (reply : Reply) : Except CallError Reply :=
  if reply.isSuccess then .ok reply
  else .error (.rejected (reply.error.getD "no reason given"))

def Caller.outcome (c : Caller) : Heard → Except CallError Reply
  | .unreachable cause => .error (.unreachable c.socket cause)
  | .silence => .error (.deadline c.deadline)
  | .bytes received => readReply received >>= accepted

end MeshRegistry.Channel
