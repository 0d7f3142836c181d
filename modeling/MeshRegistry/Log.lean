import MeshRegistry.Registration.Request

/-!
# The log

What the registry reports about its work.  An event has a level, and a log keeps the events at its
own level and above.
-/

namespace MeshRegistry

inductive Level where
  | error
  | warn
  | info
  | debug
  | trace
deriving DecidableEq, Repr

namespace Level

def name : Level → String
  | error => "ERROR"
  | warn => "WARN"
  | info => "INFO"
  | debug => "DEBUG"
  | trace => "TRACE"

/-- The greater, the less important. -/
def rank : Level → Nat
  | error => 0
  | warn => 1
  | info => 2
  | debug => 3
  | trace => 4

end Level

inductive Event where
  | refused (action : Action) (error : RegistryError)
  | registering (key : ServiceKey) (frontend backend : SocketAddress)
  | deregistering (key : ServiceKey)
  | listing (count : Nat)
  | listed (key : String) (endpoint : Endpoint)
  | listingBroken (error : RegistryError)
  | walkBroken (error : RegistryError) (collected : Nat)
deriving DecidableEq, Repr

namespace Event

def level : Event → Level
  | refused .. | listingBroken _ | walkBroken .. => .warn
  | registering .. | deregistering _ => .info
  | listing _ | listed .. => .debug

def message : Event → String
  | refused .. => "registration request refused"
  | registering .. => "registering"
  | deregistering _ => "deregistering"
  | listing _ => "registry entries:"
  | listed .. => "  entry"
  | listingBroken _ => "could not list registry entries"
  | walkBroken .. => "registry walk stopped early"

def fields : Event → List (String × String)
  | refused action error => [("action", action.name), ("error", error.message)]
  | registering key frontend backend =>
    [("key", key.text), ("frontend", frontend.text), ("backend", backend.text)]
  | deregistering key => [("key", key.text)]
  | listing count => [("count", count.repr)]
  | listed key e =>
    [("key", key), ("frontend", e.frontend.text), ("backend", e.backend.text),
      ("mode", e.mode.name)]
  | listingBroken error => [("error", error.message)]
  | walkBroken error collected => [("error", error.message), ("collected", collected.repr)]

end Event

/-- A log that keeps the events of some level and above, or none at all. -/
structure Log where
  level : Option Level
deriving DecidableEq, Repr

namespace Log

def off : Log := ⟨none⟩

def admits (log : Log) (l : Level) : Bool :=
  match log.level with
  | none => false
  | some level => l.rank ≤ level.rank

def keep (log : Log) (events : List Event) : List Event :=
  events.filter fun e => log.admits e.level

end Log

end MeshRegistry
