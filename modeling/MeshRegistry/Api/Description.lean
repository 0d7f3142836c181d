import MeshRegistry.Json.Value

/-!
# The description of the documents

What is served under `/v1`, in the form that tools for interfaces over HTTP read: the paths with
their parameters and answers, and the shapes of the documents.
-/

namespace MeshRegistry.Api.Description

open Json (Value)

abbrev Members := List (String × Value)

def text : Members := [("type", .text "string")]

def number (format : String) : Members :=
  [("type", .text "integer"), ("format", .text format), ("minimum", .int 0)]

def named (name : String) : Members :=
  [("$ref", .text ("#/components/schemas/" ++ name))]

def listOf (item : Members) : Members :=
  [("type", .text "array"), ("items", .object item)]

def optional (shape : Members) : Members :=
  shape ++ [("nullable", .bool true)]

def optionalNamed (name : String) : Members :=
  [("allOf", .list [.object (named name)]), ("nullable", .bool true)]

def remarked (remark : String) (shape : Members) : Members :=
  shape ++ [("description", .text remark)]

/-- The shape of a record: its fields, each with whether it has to be there. -/
def record (fields : List (String × Bool × Members)) : Members :=
  let required := fields.filter (·.2.1) |>.map fun f => Value.text f.1
  let properties := fields.map fun f => (f.1, Value.object f.2.2)
  ("type", .text "object") ::
    (if required.isEmpty then [] else [("required", .list required)]) ++
    [("properties", .object properties)]

def field (name : String) (shape : Members) : String × Bool × Members := (name, true, shape)

def fieldIfAny (name : String) (shape : Members) : String × Bool × Members := (name, false, shape)

def shapes : List (String × Members) :=
  [("ErrorBody", remarked "Body of every failed request." <| record [
      field "status" (text ++ [("example", .text "error")]), field "message" text]),
    ("ServiceDocument", remarked "`GET /v1/registration/\x7bservice\x7d`" <| record [
      field "env" text, field "hosts" (listOf (named "ServiceHost")), field "service" text]),
    ("ServiceHost", record [
      field "ip_address" text, field "last_check_in" text, field "port" (number "int32"),
      field "revision" text, field "service" text, field "service_repo_name" text,
      field "tags" [("type", .text "object"), ("additionalProperties", .object text)]]),
    ("ClusterDocument", remarked "`GET /v1/clusters`" <| record [
      field "clusters" (listOf (named "Cluster"))]),
    ("Cluster", record [
      field "name" text, field "type" text, field "connect_timeout_ms" (number "int64"),
      field "lb_type" text, field "service_name" text]),
    ("ListenerDocument", remarked "`GET /v1/listeners`" <| record [
      field "listeners" (listOf (named "Listener"))]),
    ("Listener", record [
      field "name" text, field "address" text, field "filters" (listOf (named "Filter"))]),
    ("Filter", record [field "name" text, field "config" (named "FilterConfig")]),
    ("FilterConfig", remarked
      ("Shared by the connection manager and the filters nested in it; the\n" ++
        "router filter serializes as `\x7b\x7d`.") <| record [
      fieldIfAny "codec_type" (optional text), fieldIfAny "stat_prefix" (optional text),
      fieldIfAny "route_config" (optionalNamed "RouteConfig"),
      fieldIfAny "filters" (listOf (named "Filter")),
      fieldIfAny "tracing" (optionalNamed "TracingConfig")]),
    ("RouteConfig", record [
      fieldIfAny "virtual_hosts" (listOf (named "VirtualHost")),
      fieldIfAny "routes" (remarked
        ("TCP proxy routes. Not populated yet: every listener gets the HTTP\n" ++
          "connection manager whatever the entry's proxy mode.") (listOf (named "TcpRoute")))]),
    ("VirtualHost", record [
      field "name" text, field "domains" (listOf text), field "routes" (listOf (named "Route"))]),
    ("Route", record [
      field "timeout_ms" (remarked "0 disables the route timeout" (number "int64")),
      field "prefix" text, field "host_rewrite" text, field "cluster" text]),
    ("TcpRoute", record [
      field "cluster" text, fieldIfAny "destination_ip_list" (listOf text),
      fieldIfAny "destination_ports" (optional text), fieldIfAny "source_ip_list" (listOf text),
      fieldIfAny "source_ports" (listOf text)]),
    ("TracingConfig", record [field "operation_name" text])]

/-- An answer: its status, what it means, and the shape of its body. -/
def answer (status remark shape : String) : String × Value :=
  (status, .object [("description", .text remark),
    ("content", .object [("application/json", .object [("schema", .object (named shape))])])])

def parameter (name remark : String) : Value :=
  .object [("name", .text name), ("in", .text "path"), ("description", .text remark),
    ("required", .bool true), ("schema", .object text)]

def path (pattern name : String) (parameters : List Value) (answers : List (String × Value)) :
    String × Value :=
  (pattern, .object [("get", .object (
    [("tags", .list [.text "crate"]), ("operationId", .text name)] ++
    (if parameters.isEmpty then [] else [("parameters", .list parameters)]) ++
    [("responses", .object answers)]))])

def proxyParameters : List Value :=
  [parameter "cluster_id" "Requesting proxy's service cluster",
    parameter "node_id" "Requesting proxy's service node"]

def paths : List (String × Value) :=
  let clusters := [answer "200" "One cluster per registered endpoint" "ClusterDocument"]
  let listeners := [answer "200" "One listener per registered endpoint" "ListenerDocument"]
  [path "/v1/registration/\x7bservice\x7d" "registration"
      [parameter "service" "Canonical service key, e.g. alpha-dev-8080"]
      [answer "200" "Instances of the service" "ServiceDocument",
        answer "404" "No instances registered under that name" "ErrorBody"],
    path "/v1/clusters" "clusters" [] clusters,
    path "/v1/clusters/\x7bcluster_id\x7d/\x7bnode_id\x7d" "clusters_for_node" proxyParameters
      clusters,
    path "/v1/listeners" "listeners" [] listeners,
    path "/v1/listeners/\x7bcluster_id\x7d/\x7bnode_id\x7d" "listeners_for_node" proxyParameters
      listeners]

def document : Value :=
  .object [("openapi", .text "3.0.3"),
    ("info", .object [("title", .text "envoyshim-server"), ("description", .text ""),
      ("license", .object [("name", .text "")]), ("version", .text "0.1.0")]),
    ("paths", .object paths),
    ("components", .object
      [("schemas", .object (shapes.map fun (name, shape) => (name, .object shape)))])]

end MeshRegistry.Api.Description
