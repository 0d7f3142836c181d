import MeshRegistry.Registration.Reply
import MeshRegistry.Registry
import MeshRegistry.Log

/-!
# Carrying requests out

The only way into the registry: a request is checked, its key derived, and the entry under that key
stored or removed.  A refused request changes nothing.  With a log that keeps details, the registry
as it then stands is listed after each change; neither the log nor a listing that breaks off has a
part in the result.
-/

namespace MeshRegistry

structure Handled (α : Type) where
  result : α
  registry : Registry
  events : List Event

namespace Registry

/-- The listing of a registry, if the log keeps it. -/
def listing (r : Registry) (log : Log) (w : Walk) : List Event :=
  if log.admits .debug then
    let (events, ending) :=
      r.forEach w (fun seen k e => (seen ++ [.listed k e], none)) [Event.listing r.size]
    log.keep (events ++ ending.toList.map .listingBroken)
  else []

def apply (r : Registry) (log : Log) (w : Walk) (request : Request) :
    Handled (Except RegistryError ServiceKey) :=
  match request.action with
  | .register =>
    match request.toEndpoint with
    | .error e => ⟨.error e, r, []⟩
    | .ok endpoint =>
      let key := endpoint.key
      let after := r.put key endpoint
      ⟨.ok key, after,
        log.keep [.registering key endpoint.frontend endpoint.backend] ++ after.listing log w⟩
  | .deregister =>
    let key := request.key
    let after := r.delete key.text
    ⟨.ok key, after, log.keep [.deregistering key] ++ after.listing log w⟩
  | .unknown => ⟨.error .unknownAction, r, []⟩

def handle (r : Registry) (log : Log) (w : Walk) (request : Request) : Handled Reply :=
  let done := r.apply log w request
  match done.result with
  | .ok _ => ⟨.ok, done.registry, done.events⟩
  | .error e =>
    ⟨.failed e.message, done.registry, done.events ++ log.keep [.refused request.action e]⟩

/-- The reply to a request and the registry afterwards, with nothing logged. -/
def answer (r : Registry) (request : Request) : Reply × Registry :=
  let done := r.handle .off .whole request
  (done.result, done.registry)

end Registry

end MeshRegistry
