import Mathlib.Data.List.Sort
import MeshRegistry.Proofs.Discovery.Projection

/-!
# Walks that break off

A walk that breaks off has shown the first entries in its order and no others.  Its documents project
these entries and are sorted afterwards, each for itself; so they still agree with each other, and
nothing in them is out of the order of the whole documents.
-/

namespace MeshRegistry

open Discovery

namespace Registry

variable {α : Type}

/-! ## What a walk shows -/

/-- The entries that a walk shows to its visitor, in its order. -/
def visited (r : Registry) (w : Walk) : List (String × Endpoint) :=
  (r.forEach w (fun seen k e => (seen ++ [(k, e)], none)) []).1

/-- A visitor that only gathers ends with one item for each entry handed out. -/
theorem forEach_append (r : Registry) (w : Walk) (f : String → Endpoint → α) (seen : List α) :
    r.forEach w (fun seen k e => (seen ++ [f k e], none)) seen =
      (seen ++ (r.handedOut w).1.map (fun p => f p.1 p.2), (r.handedOut w).2) :=
  visitEach_append f (r.handedOut w).2 seen (r.handedOut w).1

theorem visited_eq_handedOut (r : Registry) (w : Walk) : r.visited w = (r.handedOut w).1 := by
  rw [visited, forEach_append r w Prod.mk]
  simp

theorem length_order (r : Registry) (w : Walk) : (w.order r.toList).length = r.size := by
  rw [(w.order_perm _).length_eq, length_toList]

/-- A walk shows the first entries in its order: as many as it takes to break off, or all. -/
theorem visited_eq_take (r : Registry) (w : Walk) :
    r.visited w = (w.order r.toList).take (w.breaksAfter.getD r.size) := by
  have hlength := length_order r w
  rw [visited_eq_handedOut]
  unfold handedOut
  cases w.breaksAfter with
  | none => exact (List.take_of_length_le hlength.le).symm
  | some n =>
      dsimp only [Option.getD_some]
      split_ifs with hn
      · rfl
      · exact (List.take_of_length_le (Nat.le_of_not_lt hn)).symm

/-- A walk fails just when it has not shown every entry. -/
theorem handedOut_snd (r : Registry) (w : Walk) :
    (r.handedOut w).2 =
      if (r.visited w).length < r.size then some Walk.interruption else none := by
  have hlength := length_order r w
  rw [visited_eq_take, List.length_take]
  unfold handedOut
  cases w.breaksAfter with
  | none => rw [Option.getD_none, if_neg (by omega)]
  | some n =>
      dsimp only [Option.getD_some]
      by_cases hn : n < (w.order r.toList).length
      · rw [if_pos hn, if_pos (by omega)]
      · rw [if_neg hn, if_neg (by omega)]

/-- What a walk shows before it breaks off: the first entries in its order, as many as it takes, each
with what is stored under its key and no key twice. -/
structure ShowsFront (r : Registry) (w : Walk) : Prop where
  visited_eq : r.visited w = (w.order r.toList).take (w.breaksAfter.getD r.size)
  visited_stored : ∀ k e, (k, e) ∈ r.visited w → r.get? k = some e
  visited_nodup : ((r.visited w).map Prod.fst).Nodup

theorem showsFront (r : Registry) (w : Walk) : r.ShowsFront w where
  visited_eq := visited_eq_take r w
  visited_stored := by
    intro k e h
    rw [visited_eq_handedOut] at h
    exact get?_of_mem_handedOut h
  visited_nodup := by
    rw [visited_eq_handedOut]
    exact nodup_handedOut r w

/-! ## What is left of the documents -/

section Document

variable {r : Registry} {name : α → String} {project : Endpoint → α}

theorem collect_visited (r : Registry) (log : Log) (w : Walk) (project : Endpoint → α) :
    (r.collect log w project).1 = (r.visited w).map fun p => project p.2 := by
  rw [collect_fst, visited_eq_handedOut]

theorem collect_subperm (r : Registry) (log log' : Log) (w w' : Walk) (project : Endpoint → α) :
    (r.collect log w project).1.Subperm (r.collect log' w'.unbroken project).1 := by
  have hfront : (r.collect log w project).1.Sublist (r.collect log w.unbroken project).1 := by
    rw [collect_fst, collect_fst, handedOut_unbroken]
    exact (handedOut_sublist r w).map _
  exact hfront.subperm.trans (collect_unbroken_perm r log log' w w' project).subperm

/-- Lists in which the names strictly increase: one is a sublist of the other when its members are
among those of the other. -/
theorem sublist_of_names_increase {l m : List α} (hmembers : l.Subperm m)
    (hl : (l.map name).Pairwise fun a b => Text.bytes a < Text.bytes b)
    (hm : (m.map name).Pairwise fun a b => Text.bytes a < Text.bytes b) : l.Sublist m := by
  rw [List.pairwise_map] at hl hm
  have hantisymm : Std.Antisymm fun a b : α => Text.bytes (name a) < Text.bytes (name b) :=
    ⟨fun a b hab hba => absurd hba (List.lt_asymm hab)⟩
  exact List.sublist_of_subperm_of_pairwise hmembers hl hm

theorem sortByName_collect_sublist (hr : r.Keyed) (hname : ∀ e, name (project e) = e.key.text)
    (log log' : Log) (w w' : Walk) :
    (sortByName name (r.collect log w project).1).Sublist
      (sortByName name (r.collect log' w'.unbroken project).1) := by
  have hmembers := collect_subperm r log log' w w' project
  -- The walks may differ in their order; only what they collect is compared, and then sorted.
  rw [← List.Perm.subperm_right (sortByName_perm name _),
    ← List.Perm.subperm_left (sortByName_perm name _)] at hmembers
  exact sublist_of_names_increase hmembers (names_increase hr hname log w)
    (names_increase hr hname log' w'.unbroken)

end Document

/-- Documents made by a walk that may break off: they project the entries that it shows, each once and
by name, and so are what is left of the documents of a walk that does not break off. -/
structure ShownUpTo (r : Registry) (w : Walk) (clusters : List Cluster)
    (listeners : List Listener) : Prop extends ShowsFront r w where
  clusters_perm : clusters.Perm ((r.visited w).map fun p => clusterFor p.2)
  listeners_perm : listeners.Perm ((r.visited w).map fun p => listenerFor p.2)
  names_increase : (clusters.map Cluster.name).Pairwise fun a b => Text.bytes a < Text.bytes b
  listener_names : listeners.map Listener.name = clusters.map Cluster.name
  clusters_sublist : ∀ (log : Log) (w' : Walk),
    clusters.Sublist (r.clusterDocument log w'.unbroken).1.clusters
  listeners_sublist : ∀ (log : Log) (w' : Walk),
    listeners.Sublist (r.listenerDocument log w'.unbroken).1.listeners

theorem shownUpTo_of_keyed {r : Registry} (hr : r.Keyed) (log log' : Log) (w : Walk) :
    r.ShownUpTo w (r.clusterDocument log w).1.clusters
      (r.listenerDocument log' w).1.listeners where
  toShowsFront := showsFront r w
  clusters_perm := by
    rw [← collect_visited r log w clusterFor]
    exact sortByName_perm _ _
  listeners_perm := by
    rw [← collect_visited r log' w listenerFor]
    exact sortByName_perm _ _
  names_increase := names_increase hr name_clusterFor log w
  listener_names := map_sortByName_eq ((map_name_collect hr name_listenerFor log' w).trans
    (map_name_collect hr name_clusterFor log w).symm)
  clusters_sublist := fun log'' w' =>
    sortByName_collect_sublist hr name_clusterFor log log'' w w'
  listeners_sublist := fun log'' w' =>
    sortByName_collect_sublist hr name_listenerFor log' log'' w w'

/-! ## Documents between requests -/

/-- What is asked of a registry: to handle a request, or for one of the two documents. -/
inductive Operation where
  | request (turn : Turn)
  | clusters (log : Log) (walk : Walk)
  | listeners (log : Log) (walk : Walk)

/-- What comes back. -/
inductive Answer where
  | reply (reply : Reply)
  | clusters (document : ClusterDocument)
  | listeners (document : ListenerDocument)

def Operation.turn? : Operation → Option Turn
  | request t => some t
  | clusters .. | listeners .. => none

def Answer.reply? : Answer → Option Reply
  | reply a => some a
  | clusters _ | listeners _ => none

def operate (r : Registry) : Operation → Answer × Registry
  | .request t =>
    let done := r.handle t.log t.walk t.request
    (.reply done.result, done.registry)
  | .clusters log w => (.clusters (r.clusterDocument log w).1, r)
  | .listeners log w => (.listeners (r.listenerDocument log w).1, r)

def operateAll (r : Registry) : List Operation → List Answer × Registry
  | [] => ([], r)
  | op :: rest =>
    let (answer, after) := r.operate op
    let (answers, last) := after.operateAll rest
    (answer :: answers, last)

/-- Documents may be asked for at any time: the replies to the requests and the registry in the end
are those of the requests alone. -/
theorem operateAll_requests (r : Registry) (ops : List Operation) :
    ((r.operateAll ops).1.filterMap Answer.reply?, (r.operateAll ops).2) =
      r.handleAll (ops.filterMap Operation.turn?) := by
  induction ops generalizing r with
  | nil => rfl
  | cons op rest ih =>
      cases op with
      | request t =>
          have hrest := ih (r.handle t.log t.walk t.request).registry
          simp only [List.filterMap_cons, Operation.turn?, handleAll, ← hrest]
          rfl
      | clusters log w => exact ih r
      | listeners log w => exact ih r

/-- However far the walks get, a registry that requests have made is shown up to there, and asking for
its documents does not change it. -/
theorem documents_of_interrupted_walk (turns : List Turn) (log log' : Log) (w : Walk) :
    (empty.handleAll turns).2.ShownUpTo w
        ((empty.handleAll turns).2.clusterDocument log w).1.clusters
        ((empty.handleAll turns).2.listenerDocument log' w).1.listeners ∧
      ∀ ops : List Operation,
        (((empty.handleAll turns).2.operateAll ops).1.filterMap Answer.reply?,
            ((empty.handleAll turns).2.operateAll ops).2) =
          (empty.handleAll turns).2.handleAll (ops.filterMap Operation.turn?) :=
  ⟨shownUpTo_of_keyed (keyed_handleAll_empty turns) log log' w, operateAll_requests _⟩

end Registry

end MeshRegistry
