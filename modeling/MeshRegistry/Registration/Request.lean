import MeshRegistry.Endpoint

/-!
# Registration requests

What a client asks for, as it stands in the message: addresses and mode are still text.
-/

namespace MeshRegistry

inductive Action where
  | unknown
  | register
  | deregister
deriving DecidableEq, Repr, Inhabited

namespace Action

def word : Action → String
  | unknown => "UNKNOWN"
  | register => "REGISTER"
  | deregister => "DEREGISTER"

/-- The action that a word stands for; every other word asks for nothing known. -/
def ofWord (s : String) : Action :=
  if s = "REGISTER" then register
  else if s = "DEREGISTER" then deregister
  else unknown

def name : Action → String
  | unknown => "Unknown"
  | register => "Register"
  | deregister => "Deregister"

end Action

/-- A request as it was received. -/
structure Request where
  frontendAddr : String
  frontendPort : Port
  backendAddr : String
  backendPort : Port
  service : String
  environment : String
  mode : String
  action : Action
deriving DecidableEq, Repr, Inhabited

namespace Request

/-- A request about two socket addresses, with no action yet. -/
def ofSockets (frontend backend : SocketAddress) (service environment mode : String) : Request :=
  { frontendAddr := frontend.ip.text
    frontendPort := frontend.port
    backendAddr := backend.ip.text
    backendPort := backend.port
    service := service
    environment := environment
    mode := mode
    action := .unknown }

def withAction (r : Request) (action : Action) : Request :=
  { r with action := action }

/-- The key that a request is about; its addresses have no part in it. -/
def key (r : Request) : ServiceKey :=
  .ofLabels r.service r.environment r.frontendPort

/-- An address of a request, with blanks around it allowed. -/
def readIp (side : Side) (value : String) : Except RegistryError Ip :=
  match Ip.parse? (Text.trim value.toList) with
  | some ip => .ok ip
  | none => .error (.invalidAddress side value)

/-- The endpoint that a request describes: first its frontend, then its backend, then its mode has
to be right. -/
def toEndpoint (r : Request) : Except RegistryError Endpoint := do
  let frontend ← readIp .frontend r.frontendAddr
  let backend ← readIp .backend r.backendAddr
  let mode ← ProxyMode.parse r.mode
  return {
    frontend := .ofIp frontend r.frontendPort
    backend := .ofIp backend r.backendPort
    service := r.service
    environment := r.environment
    mode := mode }

def fields : Json.Fields [String, Port, String, Port, String, String, String, Action] :=
  .cons "frontend_addr" Json.text .nowhere <|
  .cons "frontend_port" Json.word16 .nowhere <|
  .cons "backend_addr" Json.text .nowhere <|
  .cons "backend_port" Json.word16 .nowhere <|
  .cons "service_name" Json.text .nowhere <|
  .cons "environment_name" Json.text .nowhere <|
  .cons "proxy_mode" Json.text (.anywhere "") <|
  .cons "action" (Json.text.map Action.ofWord) (.anywhere .unknown) .nil

def decoder : Json.Decoder Request :=
  Json.record "RegistrationRequest" (some fields)
    fun (frontendAddr, frontendPort, backendAddr, backendPort, service, environment, mode, action,
        ()) =>
      { frontendAddr, frontendPort, backendAddr, backendPort, service, environment, mode, action }

def decode (s : List Char) : Except Json.Problem Request :=
  Json.decodeAll decoder s

def toJson (r : Request) : Json.Value :=
  .object [("frontend_addr", .text r.frontendAddr), ("frontend_port", .int r.frontendPort.toNat),
    ("backend_addr", .text r.backendAddr), ("backend_port", .int r.backendPort.toNat),
    ("service_name", .text r.service), ("environment_name", .text r.environment),
    ("proxy_mode", .text r.mode), ("action", .text r.action.word)]

end Request

end MeshRegistry
