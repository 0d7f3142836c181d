import MeshRegistry.Proxy.Flow

/-!
# The handshake with the parent

The parent waits for a line: `0` when the proxy is ready, or `1` and the text of what went wrong.
-/

namespace MeshRegistry.Proxy

def statusText : Except String Unit → String
  | .ok () => "0\n"
  | .error message => "1\n" ++ message

inductive Handshake where
  | ready (flow : Flow)
  | refused (error : ProxyError)
  | misused (error : CommandLine.UsageError)
deriving DecidableEq, Repr

namespace Handshake

def ofCommandLine (bind : Binder) (env : CommandLine.Environment)
    (commandLine : List CommandLine.Argument) : Handshake :=
  match Options.ofCommandLine env commandLine with
  | .error e => misused e
  | .ok options =>
    match options.toFlow bind with
    | .error e => refused e
    | .ok flow => ready flow

/-- The first line that the parent reads. -/
def firstLine : Handshake → String
  | ready _ => "0"
  | _ => "1"

/-- The code that the program ends with, unless it goes on running.  Asking for help is fine. -/
def exitCode? : Handshake → Option Nat
  | ready _ => none
  | refused _ => some 1
  | misused .help | misused .version => some 0
  | misused _ => some 2

end Handshake

end MeshRegistry.Proxy
