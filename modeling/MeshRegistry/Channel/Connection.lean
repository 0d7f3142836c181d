import MeshRegistry.Registration.Registrar
import MeshRegistry.Text.Utf8

/-!
# One connection of the registration channel

A client sends lines, and every line that is not blank is answered with one reply, in order.  Lines
end at a line feed, and a carriage return before it is dropped; what the client has sent when it
closes its side counts as a line too.  A line that is too long is answered and ends the connection,
one that is not UTF-8 ends it without an answer.
-/

namespace MeshRegistry.Channel

open Text (Bytes)

def lineFeed : UInt8 := 10

def carriageReturn : UInt8 := 13

/-- The longest line that is read if nothing else is said. -/
def standardMaxLine : Nat := 65536

/-- The bytes before the first line feed, and those behind it if there is one. -/
def splitLine (buffer : Bytes) : Bytes × Option Bytes :=
  let line := buffer.takeWhile (· != lineFeed)
  match buffer.dropWhile (· != lineFeed) with
  | [] => (line, none)
  | _ :: rest => (line, some rest)

/-- A line without the carriage return at its end. -/
def dropReturn (line : Bytes) : Bytes :=
  if line.getLast? = some carriageReturn then line.dropLast else line

theorem splitLine_shorter {buffer line rest : Bytes} (h : splitLine buffer = (line, some rest)) :
    rest.length < buffer.length := by
  have := (List.dropWhile_suffix (· != lineFeed) (l := buffer)).length_le
  simp only [splitLine] at h
  split at h <;> grind

/-- A line that was answered: the request in it, if it held one, and the reply. -/
structure Exchange where
  request : Option Request
  reply : Reply
deriving DecidableEq, Repr

structure Connection where
  registry : Registry
  exchanges : List Exchange
  pending : Bytes
  isOpen : Bool

/-- How a connection comes to its end: the client closes its side, or says nothing for too long. -/
inductive Ending where
  | closed
  | idle
deriving DecidableEq, Repr

/-- The reply to a malformed request, without the ` at line L column C` that a registrar puts behind
the problem. -/
def malformedReply (p : Json.Problem) : Reply :=
  .failed ("malformed request: " ++ p.message)

def tooLongReply (maxLine : Nat) : Reply :=
  .failed ("malformed request: line exceeds " ++ maxLine.repr ++ " bytes")

/-- What a text that is not blank comes to. -/
def exchange (registry : Registry) (text : List Char) : Exchange × Registry :=
  match Request.decode text with
  | .ok request =>
    let (reply, after) := registry.answer request
    (⟨some request, reply⟩, after)
  | .error p => (⟨none, malformedReply p⟩, registry)

namespace Connection

def start (registry : Registry) : Connection :=
  ⟨registry, [], [], true⟩

/-- Deals with one line of no more than the longest length. -/
def line (c : Connection) (bytes : Bytes) : Connection :=
  match Text.Utf8.decode (dropReturn bytes) with
  | none => { c with isOpen := false }
  | some text =>
    if Text.allBlank text then c
    else
      let (e, after) := exchange c.registry text
      { c with registry := after, exchanges := c.exchanges ++ [e] }

/-- Deals with all lines of a buffer and keeps what is left of it. -/
def drain (maxLine : Nat) (c : Connection) (buffer : Bytes) : Connection :=
  if !c.isOpen then c
  else
    match _h : splitLine buffer with
    | (bytes, rest) =>
      if maxLine < bytes.length then
        { c with
          exchanges := c.exchanges ++ [⟨none, tooLongReply maxLine⟩]
          pending := []
          isOpen := false }
      else
        match rest with
        | none => { c with pending := bytes }
        | some rest => drain maxLine ({ c with pending := [] }.line bytes) rest
termination_by buffer.length
decreasing_by exact splitLine_shorter _h

def receive (maxLine : Nat) (c : Connection) (chunk : Bytes) : Connection :=
  c.drain maxLine (c.pending ++ chunk)

def finish (c : Connection) (ending : Ending) : Connection :=
  match ending with
  | .closed => if c.isOpen then { c.line c.pending with pending := [], isOpen := false } else c
  | .idle => { c with pending := [], isOpen := false }

/-- A whole connection: chunks of bytes and then its end. -/
def run (maxLine : Nat) (registry : Registry) (chunks : List Bytes) (ending : Ending) :
    Connection :=
  (chunks.foldl (receive maxLine) (start registry)).finish ending

/-- What the client can read. -/
def sent (c : Connection) : Bytes :=
  c.exchanges.flatMap fun e => Text.Utf8.encode e.reply.toJson.write ++ [lineFeed]

end Connection

end MeshRegistry.Channel
