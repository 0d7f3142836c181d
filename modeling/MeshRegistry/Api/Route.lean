import MeshRegistry.Http.Message
import MeshRegistry.Http.Percent
import MeshRegistry.Text.Parts

/-!
# Routes

The paths that the documents are served under, and the methods each of them admits.  A path is a
list of parts with a slash in front of each; a part that names something may not be empty at the end
of a path.
-/

namespace MeshRegistry.Api

abbrev Part := List Char

inductive Route where
  | service (name : Part)
  | clusters (proxy : Option (Part × Part))
  | listeners (proxy : Option (Part × Part))
  /-- Any other single part under `/v1`, of which nothing can be had. -/
  | unserved
  | health
  | metrics
  | description
deriving DecidableEq, Repr

namespace Route

/-- The route of the parts under `/v1`. -/
def underVersion (parts : List Part) : Option Route :=
  match parts with
  | [first] =>
    if first = "clusters".toList then some (clusters none)
    else if first = "listeners".toList then some (listeners none)
    else if first.isEmpty then none
    else some unserved
  | [first, name] =>
    if first = "registration".toList ∧ !name.isEmpty then some (service name) else none
  | [first, cluster, node] =>
    if node.isEmpty then none
    else if first = "clusters".toList then some (clusters (some (cluster, node)))
    else if first = "listeners".toList then some (listeners (some (cluster, node)))
    else none
  | _ => none

def ofPath (path : List Char) : Option Route :=
  match path with
  | '/' :: rest =>
    match Text.splitParts (· == '/') rest with
    | [] => none
    | first :: parts =>
      if first = "v1".toList then underVersion parts
      else if first :: parts = ["health".toList] then some health
      else if first :: parts = ["metrics".toList] then some metrics
      else if first :: parts = ["api-docs".toList, "openapi.json".toList] then some description
      else none
  | _ => none

def methods : Route → List String
  | service _ | clusters _ | listeners _ => ["GET", "HEAD", "OPTIONS"]
  | unserved => ["OPTIONS"]
  | health | metrics | description => ["GET", "HEAD"]

end Route

end MeshRegistry.Api
