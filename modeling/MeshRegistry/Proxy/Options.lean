import MeshRegistry.CommandLine.Argument
import MeshRegistry.CommandLine.Environment
import MeshRegistry.CommandLine.Scan
import MeshRegistry.Proxy.Error

/-!
# The command line of a proxy

The container runtime names long options with a single dash.  They are given their second dash
first, so both spellings mean the same; single letters, numbers, bytes that spell no text and
everything else stay as they are.
-/

namespace MeshRegistry.Proxy

structure Options where
  proto : String
  hostIp : String
  hostPort : Option Port
  containerIp : String
  containerPort : Option Port
  reload : Bool
  socket : String
  dockerSocket : String
deriving DecidableEq, Repr

def standardEngine : String := "unix:///var/run/docker.sock"

/-- A dash, an ASCII letter, and at least one byte more. -/
def isSingleDashLong (arg : String) : Bool :=
  match arg.toList with
  | '-' :: c :: _ :: _ => c.isAlpha
  | _ => false

def withSecondDash (arg : String) : String :=
  if isSingleDashLong arg then "-" ++ arg else arg

open CommandLine (Argument)

/-- One argument with its second dash. -/
def addSecondDash : Argument → Argument
  | .text s => .text (withSecondDash s)
  | .bytes b h => .bytes b h

/-- A command line with second dashes; the first entry, the name of the program, stays. -/
def normalizeArgs : List Argument → List Argument
  | [] => []
  | program :: args => program :: args.map addSecondDash

namespace Options

open CommandLine

def spec : Spec :=
  let port (name : String) : Opt := .checked name fun s => (port? s).isSome
  { options := [.text "proto", .text "host-ip", port "host-port", .text "container-ip",
      port "container-port", .flag "reload", .text "socket", .text "docker-socket"]
    hasVersion := true
    positionals := 0
    commands := [] }

def ofProgress (env : Environment) (p : Progress) : Options :=
  let text (name ifAbsent : String) : String := (p.value? name).getD ifAbsent
  let port (name : String) : Option Port := ((p.value? name).bind port?).map UInt16.ofNat
  { proto := text "proto" "tcp"
    hostIp := text "host-ip" ""
    hostPort := port "host-port"
    containerIp := text "container-ip" ""
    containerPort := port "container-port"
    reload := (p.value? "reload").isSome
    socket := text "socket" ((env socketVariable).getD Channel.standardSocket)
    dockerSocket := text "docker-socket" ((env engineVariable).getD standardEngine) }

/-- Reads the arguments behind the name of the program, all long options with two dashes. -/
def read (env : Environment) (args : List Argument) : Except UsageError Options :=
  (spec.read args).map (ofProgress env)

def ofCommandLine (env : Environment) (commandLine : List Argument) : Except UsageError Options :=
  read env (normalizeArgs commandLine).tail

/-- The socket address of two options: the address has to be right, then the port be there. -/
def socketAddress (ipOption ip portOption : String) (port : Option Port) :
    Except ProxyError SocketAddress :=
  match Ip.parse? ip.toList, port with
  | none, _ => .error (.invalidAddress ipOption (.notIp ip))
  | some _, none => .error (.invalidAddress portOption .missing)
  | some ip, some port => .ok (.ofIp ip port)

def frontend (o : Options) : Except ProxyError SocketAddress :=
  socketAddress "host-ip" o.hostIp "host-port" o.hostPort

def backend (o : Options) : Except ProxyError SocketAddress :=
  socketAddress "container-ip" o.containerIp "container-port" o.containerPort

end Options

end MeshRegistry.Proxy
