import MeshRegistry.Discovery.Listener

/-!
# Documents as tables

What an operator sees of a document: a line of headings, a rule, and one line for each row, with the
columns filled up to their width.
-/

namespace MeshRegistry.Discovery

def cell (width : Nat) (s : String) : String :=
  s ++ String.ofList (List.replicate (width - s.length) ' ')

def row (widths : List Nat) (cells : List String) : String :=
  " ".intercalate (List.zipWith cell widths cells)

def rule (width : Nat) : String :=
  String.ofList (List.replicate width '-')

def ClusterDocument.lines (d : ClusterDocument) : List String :=
  let widths := [40, 8, 12]
  row widths ["Cluster", "Type", "LB"] :: rule 62 ::
    d.clusters.map fun c => row widths [c.name, c.kind, c.balancing]

def ListenerDocument.lines (d : ListenerDocument) : List String :=
  let widths := [40, 30]
  row widths ["Listener", "Address"] :: rule 70 ::
    d.listeners.map fun l => row widths [l.name, l.address]

def ServiceDocument.lines (d : ServiceDocument) : List String :=
  let widths := [20, 8, 30]
  ("Service " ++ d.service ++ " (" ++ d.environment ++ ")") ::
    row widths ["Address", "Port", "Last check-in"] :: rule 60 ::
    d.hosts.map fun h => row widths [h.ipAddress, h.port.toNat.repr, h.lastCheckIn]

end MeshRegistry.Discovery
