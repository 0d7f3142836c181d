import MeshRegistry.Registration.Request

/-!
# Counters

How often each kind of thing was asked for, and the text that shows it.  A counter is shown from the
first time it counts.
-/

namespace MeshRegistry.Api

inductive Document where
  | registration
  | clusters
  | listeners
deriving DecidableEq, Repr

def Document.name : Document → String
  | registration => "registration"
  | clusters => "clusters"
  | listeners => "listeners"

/-- What is counted. -/
inductive Counter where
  | registrations (action : Action) (isOk : Bool)
  | discovery (document : Document)
deriving DecidableEq, Repr

namespace Counter

def actionLabel : Action → String
  | .unknown => "unknown"
  | .register => "register"
  | .deregister => "deregister"

def labels : Counter → List (String × String)
  | registrations action isOk =>
    [("action", actionLabel action), ("status", if isOk then "ok" else "failed")]
  | discovery document => [("document", document.name)]

def families : List (String × List Counter) :=
  [("envoyshim_discovery_requests_total",
      [.discovery .clusters, .discovery .listeners, .discovery .registration]),
    ("envoyshim_registrations_total",
      [.registrations .deregister false, .registrations .deregister true,
        .registrations .register false, .registrations .register true,
        .registrations .unknown false, .registrations .unknown true])]

end Counter

structure Counters where
  value : Counter → Nat

namespace Counters

def zero : Counters := ⟨fun _ => 0⟩

def increment (c : Counters) (k : Counter) : Counters :=
  ⟨fun k' => if k' = k then c.value k' + 1 else c.value k'⟩

theorem value_increment (c : Counters) (k k' : Counter) :
    (c.increment k).value k' = c.value k' + if k' = k then 1 else 0 := by
  unfold increment
  split <;> simp_all

def line (family : String) (k : Counter) (n : Nat) : String :=
  let label (l : String × String) : String := l.1 ++ "=\"" ++ l.2 ++ "\""
  family ++ "\x7b" ++ ",".intercalate (k.labels.map label) ++ "\x7d " ++ n.repr

/-- The lines of one family, if any of its counters has counted. -/
def familyLines (c : Counters) (family : String × List Counter) : List String :=
  match family.2.filter fun k => c.value k ≠ 0 with
  | [] => []
  | used =>
    ("# TYPE " ++ family.1 ++ " counter") :: used.map (fun k => line family.1 k (c.value k)) ++ [""]

def text (c : Counters) : String :=
  String.join ((Counter.families.flatMap c.familyLines).map (· ++ "\n"))

end Counters

end MeshRegistry.Api
