import MeshRegistry.Api.Site
import MeshRegistry.Channel.Peer
import MeshRegistry.Server.Settings

/-!
# The server

It listens at its socket, then serves the documents, and takes its socket away when it ends.  The
first failure is the one reported, but a socket that cannot be taken away comes before all others.
-/

namespace MeshRegistry.Server

/-- What is found at the path of a socket. -/
inductive Place where
  /-- The directory of the path does not exist. -/
  | unreachable
  | vacant
  | file
  | directory
  /-- The server listens here. -/
  | socket
deriving DecidableEq, Repr

inductive ServerError where
  | cannotListen (socket : String)
  | cannotServe (api : SocketAddress)
  | cannotRemove (socket : String)
deriving DecidableEq, Repr

def ServerError.message : ServerError → String
  | cannotListen socket => "failed to listen on " ++ socket
  | cannotServe api => "can't start envoy xDS API server on " ++ api.text
  | cannotRemove socket => "unable to remove socket " ++ socket

/-- Listening at a path; a file in its place is replaced. -/
def Place.listen (p : Place) : Option Place :=
  match p with
  | vacant | file | socket => some .socket
  | unreachable | directory => none

/-- Taking away what is at a path; where nothing is, nothing is to be done. -/
def Place.remove (p : Place) : Option Place :=
  match p with
  | unreachable => some .unreachable
  | vacant | file | socket => some .vacant
  | directory => none

def Place.isTaken : Place → Bool
  | unreachable | vacant => false
  | file | directory | socket => true

def Place.peer (p : Place) (r : Registry) : Channel.Peer :=
  match p with
  | socket => .registry r
  | unreachable | vacant => .absent .missing
  | file | directory => .absent .refused

structure Running where
  settings : Settings
  place : Place
  site : Api.Site

/-- How a server ended, and what it left behind. -/
structure Ended where
  result : Except ServerError Unit
  place : Place

def finish (settings : Settings) (place : Place) (served : Except ServerError Unit) : Ended :=
  match place.remove with
  | some place => ⟨served, place⟩
  | none => ⟨.error (.cannotRemove settings.socket), place⟩

/-- Starts a server: first its socket has to be had, then its address for the documents. -/
def start (settings : Settings) (place : Place) (isApiFree : Bool) (clock : Time.Clock)
    (showsCounters : Bool) : Except Ended Running :=
  match place.listen with
  | none => .error ⟨.error (.cannotListen settings.socket), place⟩
  | some place =>
    if isApiFree then .ok ⟨settings, place, .start clock showsCounters⟩
    else .error (finish settings place (.error (.cannotServe settings.api)))

namespace Running

def stop (s : Running) : Ended :=
  finish s.settings s.place (.ok ())

def call (s : Running) (caller : Channel.Caller) (request : Request) :
    Except Channel.CallError Reply × Running :=
  let (outcome, line) := caller.attempt request ⟨s.place.peer s.site.registry, 0, []⟩
  let site := line.requests.foldl (fun site request => (site.handle request).2) s.site
  (outcome, { s with site := site })

end Running

end MeshRegistry.Server
