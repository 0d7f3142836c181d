import MeshRegistry.CommandLine.Environment
import MeshRegistry.Channel.Call

/-!
# Settings of the server

Two variables say where it listens.  An address that starts with its colon means every interface.
-/

namespace MeshRegistry.Server

open CommandLine

structure Settings where
  socket : String
  api : SocketAddress
deriving DecidableEq, Repr

inductive SettingsError where
  | invalidApi (value : String)
deriving DecidableEq, Repr

def SettingsError.message : SettingsError → String
  | invalidApi value => "invalid " ++ serveVariable ++ " '" ++ value ++ "'"

/-- The address of the documents, with blanks around it allowed. -/
def readApi (value : String) : Except SettingsError SocketAddress :=
  let value := Text.trim value.toList
  let whole := if value.head? = some ':' then "0.0.0.0".toList ++ value else value
  match SocketAddress.parse? whole with
  | some address => .ok address
  | none => .error (.invalidApi (String.ofList value))

def Settings.ofEnvironment (env : Environment) : Except SettingsError Settings := do
  let socket := (env listenVariable).getD (Channel.unixScheme ++ Channel.standardSocket)
  let api ← readApi ((env serveVariable).getD "0.0.0.0:7776")
  return { socket := Channel.socketPath socket, api := api }

end MeshRegistry.Server
