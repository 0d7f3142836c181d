import MeshRegistry.CommandLine.Environment
import MeshRegistry.CommandLine.Scan
import MeshRegistry.Registration.Request
import MeshRegistry.Channel.Call

/-!
# The command line of the operator's tool

Options for where the registry is, then a command with options of its own.
-/

namespace MeshRegistry.Control

open CommandLine

inductive Command where
  | clusters
  | listeners
  | service (name : String)
  | submit (request : Request)
deriving DecidableEq, Repr

structure Invocation where
  command : Command
  api : String
  socket : String
deriving DecidableEq, Repr

def standardApi : String := "http://127.0.0.1:7776"

def rootSpec : Spec :=
  { options := [.text "api", .text "socket"]
    hasVersion := false
    positionals := 0
    commands := ["clusters", "listeners", "service", "register", "deregister", "help"] }

def plainSpec (positionals : Nat) : Spec :=
  { options := [], hasVersion := false, positionals := positionals, commands := [] }

def endpointSpec : Spec :=
  let socket (name : String) : Opt :=
    .checked name fun s => (SocketAddress.parse? s.toList).isSome
  { options := [socket "frontend", socket "backend", .text "service", .text "env", .text "mode"]
    hasVersion := false
    positionals := 0
    commands := [] }

def required {α : Type} : Option α → Except UsageError α
  | some a => .ok a
  | none => .error .missingRequired

def endpointRequest (p : Progress) (action : Action) : Except UsageError Request := do
  let socket (name : String) : Except UsageError SocketAddress :=
    required ((p.value? name).bind fun s => SocketAddress.parse? s.toList)
  let frontend ← socket "frontend"
  let backend ← socket "backend"
  let service ← required (p.value? "service")
  let environment ← required (p.value? "env")
  let mode := (p.value? "mode").getD "http"
  return (Request.ofSockets frontend backend service environment mode).withAction action

/-- Help for a command named behind `help`. -/
def helpFor : List Argument → UsageError
  | [] => .help
  | [arg] => if (rootSpec.command? arg).isSome then .help else .unknownCommand
  | _ => .unknownCommand

def readCommand (name : String) (args : List Argument) : Except UsageError Command :=
  match name with
  | "clusters" => (plainSpec 0).read args |>.map fun _ => .clusters
  | "listeners" => (plainSpec 0).read args |>.map fun _ => .listeners
  | "service" => do
    let p ← (plainSpec 1).read args
    return .service (← required (p.positionals.head?.bind Argument.text?))
  | "register" => do
    return .submit (← endpointRequest (← endpointSpec.read args) .register)
  | "deregister" => do
    return .submit (← endpointRequest (← endpointSpec.read args) .deregister)
  | _ => .error (helpFor args)

def Invocation.read (env : Environment) (args : List String) : Except UsageError Invocation := do
  match ← rootSpec.scan .start (args.map .text) with
  | (p, none) =>
    let p ← p.resolve
    .error (if p.given.isEmpty then .helpForNothing else .missingCommand)
  | (p, some (name, rest)) =>
    let command ← readCommand name rest
    let p ← p.resolve
    return {
      command := command
      api := (p.value? "api").getD ((env apiVariable).getD standardApi)
      socket := (p.value? "socket").getD ((env socketVariable).getD Channel.standardSocket) }

end MeshRegistry.Control
