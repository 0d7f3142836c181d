import MeshRegistry.Api.Counters
import MeshRegistry.Api.Description
import MeshRegistry.Api.Route
import MeshRegistry.Discovery.Documents
import MeshRegistry.Http.Target

/-!
# The site

Requests to the registry and requests for its documents, both counted.  A document is counted when
the request for it is understood, whatever comes of it; nothing else that is asked over HTTP counts.
Every refusal but that of a part that is not UTF-8 has the same JSON form.
-/

namespace MeshRegistry.Api

open Http (Response)

inductive Refusal where
  | notFound (message : String)
  | methodNotAllowed
  | failed (message : String)
deriving DecidableEq, Repr

namespace Refusal

def ofError (e : RegistryError) : Refusal :=
  match e with
  | .serviceNotFound _ => notFound e.message
  | _ => failed e.message

def status : Refusal → Nat
  | notFound _ => 404
  | methodNotAllowed => 405
  | failed _ => 500

def message : Refusal → String
  | notFound message => message
  | methodNotAllowed => "Method Not Allowed"
  | failed message => message

def toResponse (r : Refusal) : Response :=
  .json r.status (.object [("status", .text "error"), ("message", .text r.message)])

end Refusal

/-- The response to a part of a path that spells no text. -/
def notUtf8 (name : String) : Response :=
  .plain 400 ("Invalid URL: Invalid UTF-8 in `" ++ name ++ "`")

/-- The response that tells a page of another origin what it may ask. -/
def preflight : Response :=
  ⟨200, [("access-control-allow-origin", "*"), ("access-control-allow-methods", "GET")], .empty⟩

/-- What is served: a registry, what was counted, and the time. -/
structure Site where
  registry : Registry
  counters : Counters
  clock : Time.Clock
  showsCounters : Bool

namespace Site

def start (clock : Time.Clock) (showsCounters : Bool) : Site :=
  ⟨.empty, .zero, clock, showsCounters⟩

def counted (s : Site) (k : Counter) : Site :=
  { s with counters := s.counters.increment k }

def handle (s : Site) (request : Request) : Reply × Site :=
  let (reply, registry) := s.registry.answer request
  (reply, { s with registry := registry }.counted (.registrations request.action reply.isSuccess))

def servicePage (s : Site) (name : String) : Response :=
  match s.registry.serviceDocument s.clock name with
  | .ok d => .json 200 d.toJson
  | .error e => (Refusal.ofError e).toResponse

def clusterPage (s : Site) : Response :=
  .json 200 (s.registry.clusterDocument .off .whole).1.toJson

def listenerPage (s : Site) : Response :=
  .json 200 (s.registry.listenerDocument .off .whole).1.toJson

def counterPage (s : Site) : Response :=
  if s.showsCounters then .plain 200 s.counters.text
  else (Refusal.notFound "metrics recorder not installed").toResponse

/-- The parts that name the proxy asking, if both spell a text; the names are of no further use. -/
def misspelled (proxy : Option (Part × Part)) : Option Response :=
  match proxy with
  | none => none
  | some (cluster, node) =>
    if (Http.spelledText? cluster).isNone then some (notUtf8 "cluster_id")
    else if (Http.spelledText? node).isNone then some (notUtf8 "node_id")
    else none

/-- The response to a request for what a route leads to, and the site afterwards. -/
def fetch (s : Site) (route : Route) : Response × Site :=
  match route with
  | .service part =>
    match Http.spelledText? part with
    | none => (notUtf8 "service", s)
    | some name => (s.servicePage name, s.counted (.discovery .registration))
  | .clusters proxy =>
    match misspelled proxy with
    | some response => (response, s)
    | none => (s.clusterPage, s.counted (.discovery .clusters))
  | .listeners proxy =>
    match misspelled proxy with
    | some response => (response, s)
    | none => (s.listenerPage, s.counted (.discovery .listeners))
  | .health => (.plain 200 "OK", s)
  | .metrics => (s.counterPage, s)
  | .description => (.json 200 Description.document, s)
  | .unserved => (preflight, s)

def methodRefused (route : Route) : Response :=
  Refusal.methodNotAllowed.toResponse.withHeader "allow" (",".intercalate route.methods)

def respond (s : Site) (method : String) (path : List Char) : Response × Site :=
  match Route.ofPath path with
  | none => ((Refusal.notFound "Not Found").toResponse, s)
  | some route =>
    if !route.methods.contains method then (methodRefused route, s)
    else if method = "OPTIONS" then (preflight, s)
    else
      let (response, after) := s.fetch route
      (if method = "HEAD" then response.withoutBody else response, after)

/-- The response to a request for a target, and the site afterwards; nothing for what is no method
or no target. -/
def answer? (s : Site) (method : String) (target : List Char) : Option (Response × Site) :=
  if Http.isMethod method then (Http.targetPath? target).map (s.respond method) else none

end Site

end MeshRegistry.Api
