import MeshRegistry.Proofs.Discovery.Sorting
import MeshRegistry.Proofs.Registration.History

/-!
# Documents as projections of the registry

Every document makes its names from the entries, while a service is looked up by the key it is stored
under.  They agree because each entry stands under its own key.
-/

namespace MeshRegistry

open Discovery

/-! ## Where listeners lead -/

namespace Discovery

/-- The clusters that the routes of a filter lead to. -/
def RouteConfig.targets (c : RouteConfig) : List String :=
  (c.virtualHosts.flatMap fun h => h.routes.map Route.cluster) ++ c.routes.map TcpRoute.cluster

mutual

/-- The clusters that a filter leads to, with the filters inside it. -/
def Filter.targets : Filter → List String
  | .mk _ config => config.targets

/-- The clusters that are named in what a filter is told. -/
def FilterConfig.targets : FilterConfig → List String
  | .mk _ _ routes filters _ => routes.elim [] RouteConfig.targets ++ Filter.listTargets filters

/-- The clusters that several filters lead to. -/
def Filter.listTargets : List Filter → List String
  | [] => []
  | f :: rest => f.targets ++ Filter.listTargets rest

end

/-- The clusters that a listener leads to, one for each of its routes. -/
def Listener.targets (l : Listener) : List String :=
  Filter.listTargets l.filters

theorem name_clusterFor (e : Endpoint) : (clusterFor e).name = e.key.text := rfl

theorem name_listenerFor (e : Endpoint) : (listenerFor e).name = e.key.text := rfl

theorem targets_listenerFor (e : Endpoint) : (listenerFor e).targets = [e.key.text] := by
  simp [listenerFor, Listener.targets, Filter.listTargets, Filter.targets, FilterConfig.targets,
    RouteConfig.targets, routerFilter]

end Discovery

/-! ## Entries under their own keys -/

namespace Registry

/-- Each entry stands under its own key. -/
def Keyed (r : Registry) : Prop :=
  ∀ k e, r.get? k = some e → e.key.text = k

theorem keyed_handleAll_empty (turns : List Turn) : (empty.handleAll turns).2.Keyed := by
  rw [handleAll_eq]
  exact (reflects_foldl_after _).key_eq

theorem nodup_keys (r : Registry) : (r.toList.map Prod.fst).Nodup := by
  rw [toList, Std.ExtTreeMap.map_fst_toList_eq_keys]
  exact Std.ExtTreeMap.nodup_keys

theorem length_toList (r : Registry) : r.toList.length = r.size :=
  Std.ExtTreeMap.length_toList

end Registry

namespace Walk

/-- The walk that hands the entries out in the same order and does not break off. -/
def unbroken (w : Walk) : Walk :=
  { w with breaksAfter := none }

end Walk

namespace Registry

variable {α : Type}

theorem handedOut_sublist (r : Registry) (w : Walk) :
    (r.handedOut w).1.Sublist (w.order r.toList) := by
  rw [handedOut]
  split
  · exact List.Sublist.refl _
  · split
    · exact List.take_sublist _ _
    · exact List.Sublist.refl _

theorem handedOut_unbroken (r : Registry) (w : Walk) :
    r.handedOut w.unbroken = (w.order r.toList, none) := rfl

theorem get?_of_mem_handedOut {r : Registry} {w : Walk} {k : String} {e : Endpoint}
    (h : (k, e) ∈ (r.handedOut w).1) : r.get? k = some e := by
  have hmem : (k, e) ∈ w.order r.toList := (handedOut_sublist r w).subset h
  exact mem_toList_iff.1 ((w.order_perm _).mem_iff.1 hmem)

theorem nodup_handedOut (r : Registry) (w : Walk) : ((r.handedOut w).1.map Prod.fst).Nodup := by
  have horder : ((w.order r.toList).map Prod.fst).Nodup :=
    ((w.order_perm _).map Prod.fst).nodup_iff.2 (nodup_keys r)
  exact ((handedOut_sublist r w).map Prod.fst).nodup horder

theorem visitEach_append (f : String → Endpoint → α) (ending : Option RegistryError)
    (seen : List α) (entries : List (String × Endpoint)) :
    visitEach (fun seen k e => (seen ++ [f k e], none)) ending seen entries =
      (seen ++ entries.map (fun p => f p.1 p.2), ending) := by
  induction entries generalizing seen with
  | nil => simp [visitEach]
  | cons p rest ih => simp [visitEach, ih]

/-- What is collected is one projection for each entry handed out. -/
theorem collect_fst (r : Registry) (log : Log) (w : Walk) (project : Endpoint → α) :
    (r.collect log w project).1 = (r.handedOut w).1.map fun p => project p.2 := by
  simp [collect, forEach, visitEach_append (fun _ e => project e)]

/-! ## One document -/

section Document

variable {r : Registry} {name : α → String} {project : Endpoint → α}

/-- The names that a walk collects are the keys that it hands out. -/
theorem map_name_collect (hr : r.Keyed) (hname : ∀ e, name (project e) = e.key.text) (log : Log)
    (w : Walk) : (r.collect log w project).1.map name = (r.handedOut w).1.map Prod.fst := by
  rw [collect_fst, List.map_map]
  apply List.map_congr_left
  rintro ⟨k, e⟩ hmem
  rw [Function.comp_apply, hname]
  exact hr k e (get?_of_mem_handedOut hmem)

theorem mem_collect_iff {log : Log} {w : Walk} {a : α} :
    a ∈ (r.collect log w project).1 ↔ ∃ k e, (k, e) ∈ (r.handedOut w).1 ∧ project e = a := by
  simp [collect_fst]

/-- Only one of the collected projections has a given name. -/
theorem eq_of_name_eq (hr : r.Keyed) (hname : ∀ e, name (project e) = e.key.text) {log : Log}
    {w : Walk} {a b : α} (ha : a ∈ (r.collect log w project).1)
    (hb : b ∈ (r.collect log w project).1) (h : name a = name b) : a = b := by
  obtain ⟨k, e, hmem, rfl⟩ := mem_collect_iff.1 ha
  obtain ⟨k', e', hmem', rfl⟩ := mem_collect_iff.1 hb
  have he := get?_of_mem_handedOut hmem
  have he' := get?_of_mem_handedOut hmem'
  rw [hname, hname, hr k e he, hr k' e' he'] at h
  subst h
  rw [Option.some.inj (he.symm.trans he')]

theorem names_increase (hr : r.Keyed) (hname : ∀ e, name (project e) = e.key.text) (log : Log)
    (w : Walk) :
    ((sortByName name (r.collect log w project).1).map name).Pairwise
      fun a b => Text.bytes a < Text.bytes b := by
  apply pairwise_lt_sortByName
  rw [map_name_collect hr hname]
  exact nodup_handedOut r w

theorem collect_unbroken_perm (r : Registry) (log log' : Log) (w w' : Walk)
    (project : Endpoint → α) :
    (r.collect log w.unbroken project).1.Perm (r.collect log' w'.unbroken project).1 := by
  rw [collect_fst, collect_fst, handedOut_unbroken, handedOut_unbroken]
  exact ((w.order_perm _).trans (w'.order_perm _).symm).map _

/-- Walks that do not break off make the same document, in whatever order they go. -/
theorem sortByName_collect_unbroken (hr : r.Keyed)
    (hname : ∀ e, name (project e) = e.key.text) (log log' : Log) (w w' : Walk) :
    sortByName name (r.collect log w.unbroken project).1 =
      sortByName name (r.collect log' w'.unbroken project).1 :=
  sortByName_eq_of_perm (collect_unbroken_perm r log log' w w' project)
    fun _ ha _ hb h => eq_of_name_eq hr hname ha hb h

end Document

/-! ## All documents together -/

/-- Documents that show a registry: their names are its keys, strictly increasing, and each name leads
to the entry under it. -/
structure ShownBy (r : Registry) (clock : Time.Clock) (clusters : List Cluster)
    (listeners : List Listener) : Prop where
  names_increase : (clusters.map Cluster.name).Pairwise fun a b => Text.bytes a < Text.bytes b
  mem_names_iff : ∀ k, k ∈ clusters.map Cluster.name ↔ ∃ e, r.get? k = some e
  length_clusters : clusters.length = r.size
  listener_names : listeners.map Listener.name = clusters.map Cluster.name
  serviceName_eq : ∀ c ∈ clusters, c.serviceName = c.name
  exists_service_iff : ∀ k,
    (∃ d, r.serviceDocument clock k = .ok d) ↔ k ∈ clusters.map Cluster.name
  service_host : ∀ k d, r.serviceDocument clock k = .ok d →
    ∃ e host, r.get? k = some e ∧ d.hosts = [host] ∧ host.ipAddress = e.backend.ip.text ∧
      host.port = e.backend.port ∧ host.service = k
  listener_address : ∀ l ∈ listeners,
    ∃ e, r.get? l.name = some e ∧ l.address = "tcp://" ++ e.frontend.text
  listener_target : ∀ l ∈ listeners, ∃ c ∈ clusters, l.targets = [c.name]

theorem exists_service_iff_get? (r : Registry) (clock : Time.Clock) (k : String) :
    (∃ d, r.serviceDocument clock k = .ok d) ↔ ∃ e, r.get? k = some e := by
  cases h : r.get? k <;> simp [serviceDocument, h]

theorem host_of_serviceDocument {r : Registry} (hr : r.Keyed) {clock : Time.Clock} {k : String}
    {d : ServiceDocument} (h : r.serviceDocument clock k = .ok d) :
    ∃ e host, r.get? k = some e ∧ d.hosts = [host] ∧ host.ipAddress = e.backend.ip.text ∧
      host.port = e.backend.port ∧ host.service = k := by
  rw [serviceDocument] at h
  split at h
  · cases h
  · next e he =>
    cases h
    exact ⟨e, hostFor clock e, he, rfl, rfl, rfl, hr k e he⟩

theorem mem_handedOut_unbroken {r : Registry} {w : Walk} {k : String} {e : Endpoint} :
    (k, e) ∈ (r.handedOut w.unbroken).1 ↔ r.get? k = some e := by
  rw [handedOut_unbroken, (w.order_perm _).mem_iff, mem_toList_iff]

theorem shownBy_of_keyed {r : Registry} (hr : r.Keyed) (clock : Time.Clock) (log : Log)
    (w : Walk) :
    r.ShownBy clock (r.clusterDocument log w.unbroken).1.clusters
      (r.listenerDocument log w.unbroken).1.listeners := by
  have hcluster : ∀ c, c ∈ (r.clusterDocument log w.unbroken).1.clusters ↔
      ∃ k e, r.get? k = some e ∧ clusterFor e = c := by
    intro c
    simp only [clusterDocument, (sortByName_perm _ _).mem_iff, mem_collect_iff,
      mem_handedOut_unbroken]
  have hlistener : ∀ l, l ∈ (r.listenerDocument log w.unbroken).1.listeners ↔
      ∃ k e, r.get? k = some e ∧ listenerFor e = l := by
    intro l
    simp only [listenerDocument, (sortByName_perm _ _).mem_iff, mem_collect_iff,
      mem_handedOut_unbroken]
  have hnames : ∀ k, k ∈ (r.clusterDocument log w.unbroken).1.clusters.map Cluster.name ↔
      ∃ e, r.get? k = some e := by
    intro k
    rw [List.mem_map]
    constructor
    · rintro ⟨c, hc, rfl⟩
      obtain ⟨k, e, he, rfl⟩ := (hcluster c).1 hc
      exact ⟨e, by rw [name_clusterFor, hr k e he, he]⟩
    · rintro ⟨e, he⟩
      exact ⟨clusterFor e, (hcluster _).2 ⟨k, e, he, rfl⟩, hr k e he⟩
  refine ⟨names_increase hr name_clusterFor log w.unbroken, hnames, ?_, ?_, ?_, ?_, ?_, ?_, ?_⟩
  · rw [clusterDocument, (sortByName_perm _ _).length_eq, collect_fst, List.length_map,
      handedOut_unbroken, (w.order_perm _).length_eq, length_toList]
  · exact map_sortByName_eq ((map_name_collect hr name_listenerFor log w.unbroken).trans
      (map_name_collect hr name_clusterFor log w.unbroken).symm)
  · intro c hc
    obtain ⟨k, e, -, rfl⟩ := (hcluster c).1 hc
    rfl
  · intro k
    rw [hnames, exists_service_iff_get?]
  · intro k d hd
    exact host_of_serviceDocument hr hd
  · intro l hl
    obtain ⟨k, e, he, rfl⟩ := (hlistener l).1 hl
    exact ⟨e, by rw [name_listenerFor, hr k e he, he], rfl⟩
  · intro l hl
    obtain ⟨k, e, he, rfl⟩ := (hlistener l).1 hl
    exact ⟨clusterFor e, (hcluster _).2 ⟨k, e, he, rfl⟩, targets_listenerFor e⟩

/-- Whatever requests a registry has handled, its documents show it, and walks in any two orders make
the same ones. -/
theorem documents_show_registry (turns : List Turn) (clock : Time.Clock) (log : Log) (w : Walk) :
    (empty.handleAll turns).2.ShownBy clock
        ((empty.handleAll turns).2.clusterDocument log w.unbroken).1.clusters
        ((empty.handleAll turns).2.listenerDocument log w.unbroken).1.listeners ∧
      ∀ (log' : Log) (w' : Walk),
        ((empty.handleAll turns).2.clusterDocument log' w'.unbroken).1 =
            ((empty.handleAll turns).2.clusterDocument log w.unbroken).1 ∧
          ((empty.handleAll turns).2.listenerDocument log' w'.unbroken).1 =
            ((empty.handleAll turns).2.listenerDocument log w.unbroken).1 := by
  have hkeyed := keyed_handleAll_empty turns
  refine ⟨shownBy_of_keyed hkeyed clock log w, ?_⟩
  intro log' w'
  constructor
  · simp only [clusterDocument]
    rw [sortByName_collect_unbroken hkeyed name_clusterFor log' log w' w]
  · simp only [listenerDocument]
    rw [sortByName_collect_unbroken hkeyed name_listenerFor log' log w' w]

end Registry

end MeshRegistry
