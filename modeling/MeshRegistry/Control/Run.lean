import MeshRegistry.Api.Site
import MeshRegistry.Channel.Peer
import MeshRegistry.Control.Options
import MeshRegistry.Discovery.Table
import MeshRegistry.Http.Url

/-!
# Carrying out an operator's command

Documents are fetched over HTTP and shown as tables, endpoints are registered over the channel.
-/

namespace MeshRegistry.Control

/-- What asking for the page at an address comes to, if anybody answers. -/
abbrev Network := String → Option Http.Answer

def Network.ofSite (host : List Char) (site : Api.Site) : Network := fun url => do
  let u ← Http.Url.parse? url.toList
  if u.host ≠ host then none
  let (response, _) ← site.answer? "GET" u.target
  return response.toAnswer

inductive Failure where
  | noAnswer (url : String)
  | badStatus (status : Nat) (url : String)
  | badDocument (url : String)
  | badService
  | refused (reason : String)
  | notCarriedOut (request : Request)
deriving DecidableEq, Repr

def Failure.message : Failure → String
  | noAnswer url => "request to " ++ url ++ " failed"
  | badStatus status url =>
    "HTTP status " ++ (if status < 500 then "client" else "server") ++ " error (" ++
      Http.statusText status ++ ") for url (" ++ url ++ ")"
  | badDocument url => "bad document from " ++ url
  | badService => "bad service document"
  | refused reason => reason
  | notCarriedOut request => request.action.name ++ " of " ++ request.key.text ++ " failed"

def reasonDecoder : Json.Decoder String :=
  Json.record "ErrorBody" (some (.cons "message" Json.text .nowhere .nil))
    fun (message, ()) => message

/-- Fetches a document whose absence is an error of the server. -/
def fetch {α : Type} (net : Network) (decode : List Char → Except Json.Problem α) (url : String) :
    Except Failure α :=
  match net url with
  | none => .error (.noAnswer url)
  | some a =>
    if 400 ≤ a.status ∧ a.status < 600 then .error (.badStatus a.status url)
    else (decode a.body).mapError fun _ => .badDocument url

/-- Fetches the document of a service, or the reason why there is none. -/
def fetchService (net : Network) (url : String) : Except Failure Discovery.ServiceDocument :=
  match net url with
  | none => .error (.noAnswer url)
  | some a =>
    if 200 ≤ a.status ∧ a.status < 300 then
      (Discovery.ServiceDocument.decode a.body).mapError fun _ => .badService
    else
      match Json.decodeAll reasonDecoder a.body with
      | .ok reason => .error (.refused reason)
      | .error _ => .error (.refused (Http.statusText a.status))

def withoutSlashes (api : String) : String :=
  String.ofList (api.toList.reverse.dropWhile (· == '/')).reverse

def doneText : Action → String
  | .register => "Registered"
  | .deregister => "Deregistered"
  | .unknown => "Done"

/-- Carries a command out: the lines to be shown, or why it failed.  `line` leads to what listens at
the socket. -/
def Invocation.run (i : Invocation) (net : Network) (line : Channel.Line) :
    Except Failure (List String) × Channel.Line :=
  let api := withoutSlashes i.api
  match i.command with
  | .clusters =>
    ((fetch net Discovery.ClusterDocument.decode (api ++ "/v1/clusters")).map
      Discovery.ClusterDocument.lines, line)
  | .listeners =>
    ((fetch net Discovery.ListenerDocument.decode (api ++ "/v1/listeners")).map
      Discovery.ListenerDocument.lines, line)
  | .service name =>
    ((fetchService net (api ++ "/v1/registration/" ++ name)).map
      Discovery.ServiceDocument.lines, line)
  | .submit request =>
    let caller : Channel.Caller := ⟨Channel.socketPath i.socket, Channel.standardDeadline⟩
    match caller.register .standard request line with
    | (.ok _, line) => (.ok [doneText request.action], line)
    | (.error _, line) => (.error (.notCarriedOut request), line)

end MeshRegistry.Control
