/-!
# Refusals

Why the registry turns something down.  None of these goes away by asking again.
-/

namespace MeshRegistry

inductive Side where
  | frontend
  | backend
deriving DecidableEq, Repr

def Side.name : Side → String
  | .frontend => "frontend"
  | .backend => "backend"

/-- Why something was refused. -/
inductive RegistryError where
  | unknownAction
  | invalidAddress (side : Side) (value : String)
  | invalidMode (value : String)
  | serviceNotFound (name : String)
deriving DecidableEq, Repr

def RegistryError.message : RegistryError → String
  | unknownAction => "unknown request action, no idea what to do with it"
  | invalidAddress side value => "invalid " ++ side.name ++ " address '" ++ value ++ "'"
  | invalidMode value => "unsupported proxy mode '" ++ value ++ "'"
  | serviceNotFound name => "no instances of '" ++ name ++ "' found"

def RegistryError.isRetryable (_ : RegistryError) : Bool :=
  false

end MeshRegistry
