/-!
# Environments

The variables that a program is started with.  They stand in for options that are not given.
-/

namespace MeshRegistry.CommandLine

/-- The value of each variable that is set. -/
abbrev Environment := String → Option String

def Environment.empty : Environment := fun _ => none

def listenVariable : String := "SHIM_LISTEN_ADDR"

def serveVariable : String := "SHIM_API_ADDR"

def socketVariable : String := "SHIM_SOCKET_PATH"

def apiVariable : String := "SHIM_API_URL"

def engineVariable : String := "DOCKER_HOST"

def knownVariables : List String :=
  [listenVariable, serveVariable, socketVariable, apiVariable, engineVariable]

end MeshRegistry.CommandLine
