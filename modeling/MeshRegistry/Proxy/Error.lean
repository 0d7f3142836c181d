import MeshRegistry.Channel.Call

/-!
# What can go wrong with a proxy

From the command line it was started with to the call that registers it.
-/

namespace MeshRegistry.Proxy

inductive AddressFault where
  | notIp (value : String)
  | missing
deriving DecidableEq, Repr

def AddressFault.message : AddressFault → String
  | .notIp value => "'" ++ value ++ "' is not an IP address"
  | .missing => "missing"

inductive ConfigFault where
  | reloadOfRelay
  | dockerHost (host : String)
deriving DecidableEq, Repr

def ConfigFault.message : ConfigFault → String
  | .reloadOfRelay => "reload is only supported for tcp"
  | .dockerHost host => "unsupported docker host '" ++ host ++ "', only unix sockets are handled"

inductive ProxyError where
  | unsupportedProtocol (name : String)
  | invalidAddress (option : String) (fault : AddressFault)
  | config (fault : ConfigFault)
  | lookup (port : Port) (reason : String)
  | registration (cause : Channel.CallError)
  | system (kind : String)
deriving DecidableEq, Repr

def ProxyError.message : ProxyError → String
  | unsupportedProtocol name => "unsupported protocol " ++ name
  | invalidAddress option fault => "invalid " ++ option ++ ": " ++ fault.message
  | config fault => fault.message
  | lookup port reason =>
    "unable to find container for " ++ port.toNat.repr ++ "! (" ++ reason ++ ")"
  | registration cause => "could not call the registrar: " ++ cause.message
  | system kind => kind

end MeshRegistry.Proxy
