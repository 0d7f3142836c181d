import MeshRegistry.Discovery.Cluster

/-!
# Listener documents

The listeners that a proxy is to open, each with the filters that traffic passes.  A filter may hold
further filters in its configuration, to any depth.  What is absent or empty is not written.
-/

namespace MeshRegistry.Discovery

structure Route where
  timeout : UInt64
  path : String
  newHost : String
  cluster : String
deriving DecidableEq, Repr

structure VirtualHost where
  name : String
  domains : List String
  routes : List Route
deriving DecidableEq, Repr

/-- Where connections between some addresses go. -/
structure TcpRoute where
  cluster : String
  destinationIps : List String
  destinationPorts : Option String
  sourceIps : List String
  sourcePorts : List String
deriving DecidableEq, Repr

structure RouteConfig where
  virtualHosts : List VirtualHost
  routes : List TcpRoute
deriving DecidableEq, Repr

structure Tracing where
  operation : String
deriving DecidableEq, Repr

mutual

inductive Filter where
  | mk (name : String) (config : FilterConfig)

inductive FilterConfig where
  | mk (codec statPrefix : Option String) (routes : Option RouteConfig) (filters : List Filter)
    (tracing : Option Tracing)

end

structure Listener where
  name : String
  address : String
  filters : List Filter

structure ListenerDocument where
  listeners : List Listener

/-! ## Reading -/

/-- Strings, where so many containers may still be opened. -/
def textList (left : Nat) : Json.Decoder (List String) :=
  Json.list (Json.within left fun _ => Json.text)

def Route.decoder (left : Nat) : Json.Decoder Route :=
  Json.record "Route"
    (Json.within left fun _ =>
      .cons "timeout_ms" Json.word64 .nowhere <|
      .cons "prefix" Json.text .nowhere <|
      .cons "host_rewrite" Json.text .nowhere <|
      .cons "cluster" Json.text .nowhere .nil)
    fun (timeout, path, newHost, cluster, ()) => { timeout, path, newHost, cluster }

def VirtualHost.decoder (left : Nat) : Json.Decoder VirtualHost :=
  Json.record "VirtualHost"
    (Json.within left fun left =>
      .cons "name" Json.text .nowhere <|
      .cons "domains" (textList left) .nowhere <|
      .cons "routes" (Json.list (Json.within left Route.decoder)) .nowhere .nil)
    fun (name, domains, routes, ()) => { name, domains, routes }

def TcpRoute.decoder (left : Nat) : Json.Decoder TcpRoute :=
  Json.record "TcpRoute"
    (Json.within left fun left =>
      .cons "cluster" Json.text .nowhere <|
      .cons "destination_ip_list" (textList left) (.anywhere []) <|
      .cons "destination_ports" (Json.optional Json.text) (.anywhere none) <|
      .cons "source_ip_list" (textList left) (.anywhere []) <|
      .cons "source_ports" (textList left) (.anywhere []) .nil)
    fun (cluster, destinationIps, destinationPorts, sourceIps, sourcePorts, ()) =>
      { cluster, destinationIps, destinationPorts, sourceIps, sourcePorts }

def RouteConfig.decoder (left : Nat) : Json.Decoder RouteConfig :=
  Json.record "RouteConfig"
    (Json.within left fun left =>
      .cons "virtual_hosts" (Json.list (Json.within left VirtualHost.decoder)) (.anywhere []) <|
      .cons "routes" (Json.list (Json.within left TcpRoute.decoder)) (.anywhere []) .nil)
    fun (virtualHosts, routes, ()) => { virtualHosts, routes }

def Tracing.decoder (left : Nat) : Json.Decoder Tracing :=
  Json.record "TracingConfig"
    (Json.within left fun _ => .cons "operation_name" Json.text .nowhere .nil)
    fun (operation, ()) => { operation }

mutual

def Filter.decoder (left : Nat) : Json.Decoder Filter :=
  Json.record "Filter"
    (match left with
      | 0 => none
      | left + 1 =>
        some (.cons "name" Json.text .nowhere <|
          .cons "config" (FilterConfig.decoder left) .nowhere .nil))
    fun (name, config, ()) => .mk name config

def FilterConfig.decoder (left : Nat) : Json.Decoder FilterConfig :=
  Json.record "FilterConfig"
    (match left with
      | 0 => none
      | left + 1 =>
        some (.cons "codec_type" (Json.optional Json.text) (.anywhere none) <|
          .cons "stat_prefix" (Json.optional Json.text) (.anywhere none) <|
          .cons "route_config" (Json.optional (RouteConfig.decoder left)) (.anywhere none) <|
          .cons "filters" (Filter.listDecoder left) (.anywhere []) <|
          .cons "tracing" (Json.optional (Tracing.decoder left)) (.anywhere none) .nil))
    fun (codec, statPrefix, routes, filters, tracing, ()) =>
      .mk codec statPrefix routes filters tracing

def Filter.listDecoder (left : Nat) : Json.Decoder (List Filter) :=
  Json.list (match left with
    | 0 => none
    | left + 1 => some (Filter.decoder left))

end

def Listener.decoder (left : Nat) : Json.Decoder Listener :=
  Json.record "Listener"
    (Json.within left fun left =>
      .cons "name" Json.text .nowhere <|
      .cons "address" Json.text .nowhere <|
      .cons "filters" (Filter.listDecoder left) .nowhere .nil)
    fun (name, address, filters, ()) => { name, address, filters }

def ListenerDocument.decoder (left : Nat) : Json.Decoder ListenerDocument :=
  Json.record "ListenerDocument"
    (Json.within left fun left =>
      .cons "listeners" (Json.list (Json.within left Listener.decoder)) .nowhere .nil)
    fun (listeners, ()) => { listeners }

def ListenerDocument.decode (s : List Char) : Except Json.Problem ListenerDocument :=
  Json.decodeAll (decoder Json.maxNesting) s

/-! ## Writing -/

def textsToJson (texts : List String) : Json.Value :=
  .list (texts.map .text)

def optionalText (name : String) (s : Option String) : List (String × Json.Value) :=
  s.toList.map fun s => (name, .text s)

/-- A member with a list, unless it is empty. -/
def nonEmptyList (name : String) : List Json.Value → List (String × Json.Value)
  | [] => []
  | items => [(name, .list items)]

def Route.toJson (r : Route) : Json.Value :=
  .object [("timeout_ms", .int r.timeout.toNat), ("prefix", .text r.path),
    ("host_rewrite", .text r.newHost), ("cluster", .text r.cluster)]

def VirtualHost.toJson (h : VirtualHost) : Json.Value :=
  .object [("name", .text h.name), ("domains", textsToJson h.domains),
    ("routes", .list (h.routes.map Route.toJson))]

def TcpRoute.toJson (r : TcpRoute) : Json.Value :=
  .object (("cluster", .text r.cluster) ::
    nonEmptyList "destination_ip_list" (r.destinationIps.map .text) ++
    optionalText "destination_ports" r.destinationPorts ++
    nonEmptyList "source_ip_list" (r.sourceIps.map .text) ++
    nonEmptyList "source_ports" (r.sourcePorts.map .text))

def RouteConfig.toJson (c : RouteConfig) : Json.Value :=
  .object (nonEmptyList "virtual_hosts" (c.virtualHosts.map VirtualHost.toJson) ++
    nonEmptyList "routes" (c.routes.map TcpRoute.toJson))

def Tracing.toJson (t : Tracing) : Json.Value :=
  .object [("operation_name", .text t.operation)]

mutual

def Filter.toJson : Filter → Json.Value
  | .mk name config => .object [("name", .text name), ("config", config.toJson)]

def FilterConfig.toJson : FilterConfig → Json.Value
  | .mk codec statPrefix routes filters tracing =>
    .object (optionalText "codec_type" codec ++ optionalText "stat_prefix" statPrefix ++
      routes.toList.map (fun r => ("route_config", r.toJson)) ++
      nonEmptyList "filters" (Filter.listToJson filters) ++
      tracing.toList.map (fun t => ("tracing", t.toJson)))

def Filter.listToJson : List Filter → List Json.Value
  | [] => []
  | f :: rest => f.toJson :: Filter.listToJson rest

end

def Listener.toJson (l : Listener) : Json.Value :=
  .object [("name", .text l.name), ("address", .text l.address),
    ("filters", .list (Filter.listToJson l.filters))]

def ListenerDocument.toJson (d : ListenerDocument) : Json.Value :=
  .object [("listeners", .list (d.listeners.map Listener.toJson))]

end MeshRegistry.Discovery
