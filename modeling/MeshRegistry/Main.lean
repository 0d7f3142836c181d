import MeshRegistry.Control.Run
import MeshRegistry.Proxy.Handshake
import MeshRegistry.Proxy.Listing
import MeshRegistry.Proxy.Relay
import MeshRegistry.Server.Run

/-!
# The program

Three tools in one.  `serve` is one connection of the registration channel over the standard
streams, `proxy` does the handshake with the parent, and `control` carries an operator's command out
where no server answers.
-/

namespace MeshRegistry

def environment : IO CommandLine.Environment := do
  let values ← CommandLine.knownVariables.mapM fun name => do return (name, ← IO.getEnv name)
  return fun name => (values.find? (·.1 = name)).bind (·.2)

/-- Prints what a connection has been sent beyond what was printed before. -/
def printReplies (before after : Channel.Connection) : IO Unit := do
  for e in after.exchanges.drop before.exchanges.length do
    IO.println e.reply.toJson.render
  (← IO.getStdout).flush

/-- Answers lines from the standard input until it ends or the connection is closed. -/
partial def serve (c : Channel.Connection) : IO Unit := do
  let chunk ← (← IO.getStdin).read 4096
  if chunk.isEmpty then printReplies c (c.finish .closed)
  else
    let after := c.receive Channel.standardMaxLine chunk.toList
    printReplies c after
    if after.isOpen then serve after

/-- The host gives out every address that it is asked for. -/
def bindAny : Proxy.Binder := .ok

def runProxy (env : CommandLine.Environment) (args : List String) : IO UInt32 := do
  let handshake := Proxy.Handshake.ofCommandLine bindAny env (("proxy" :: args).map .text)
  match handshake with
  | .refused e => IO.println (Proxy.statusText (.error e.message))
  | _ => IO.println handshake.firstLine
  return UInt32.ofNat (handshake.exitCode?.getD 0)

def runControl (env : CommandLine.Environment) (args : List String) : IO UInt32 := do
  match Control.Invocation.read env args with
  | .error .help => return 0
  | .error _ => return 2
  | .ok i =>
    match (i.run (fun _ => none) ⟨.absent .missing, 0, []⟩).1 with
    | .ok lines =>
      lines.forM fun line => IO.println line
      return 0
    | .error e =>
      IO.eprintln ("Error: " ++ e.message)
      return 1

def runServer (env : CommandLine.Environment) : IO UInt32 := do
  match Server.Settings.ofEnvironment env with
  | .error e =>
    IO.eprintln ("Error: " ++ e.message)
    return 1
  | .ok _ =>
    serve (.start .empty)
    return 0

end MeshRegistry

def main (args : List String) : IO UInt32 := do
  let env ← MeshRegistry.environment
  match args with
  | "proxy" :: rest => MeshRegistry.runProxy env rest
  | "control" :: rest => MeshRegistry.runControl env rest
  | "serve" :: _ => MeshRegistry.runServer env
  | _ => return 2
