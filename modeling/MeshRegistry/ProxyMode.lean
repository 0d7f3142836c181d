import MeshRegistry.Text.Blank
import MeshRegistry.Text.Case
import MeshRegistry.RegistryError
import MeshRegistry.Json.Decode

/-!
# Proxy modes

What the proxy is to understand of the traffic in front of an endpoint.
-/

namespace MeshRegistry

inductive ProxyMode where
  | http
  | tcp
deriving DecidableEq, Repr, Inhabited

namespace ProxyMode

def name : ProxyMode → String
  | http => "http"
  | tcp => "tcp"

/-- Reads a mode as people write it: blanks around it and the case of `A` to `Z` do not matter, and
nothing at all is `http`. -/
def parse (s : String) : Except RegistryError ProxyMode :=
  let word := String.ofList (Text.lowerAscii (Text.trim s.toList))
  if word = "" ∨ word = "http" then .ok http
  else if word = "tcp" then .ok tcp
  else .error (.invalidMode s)

/-- Reads a mode from a message, where only the exact name will do. -/
def ofWord (s : String) : Except Json.Problem ProxyMode :=
  if s = "http" then .ok http
  else if s = "tcp" then .ok tcp
  else .error (.unknownVariant s ["http", "tcp"])

end ProxyMode

end MeshRegistry
