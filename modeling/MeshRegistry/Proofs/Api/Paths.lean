import MeshRegistry.Proofs.Api.Failures
import MeshRegistry.Proofs.Text.Parts

/-!
# Where the documents are served

The path of a document is written down here part by part.  A path written so leads to its document,
and no other does.
-/

namespace MeshRegistry.Api

/-- The document that a route leads to. -/
def Route.document? : Route → Option Document
  | service _ => some .registration
  | clusters _ => some .clusters
  | listeners _ => some .listeners
  | _ => none

/-- A request for a route is one for a document: all that is named in it can be read. -/
def Route.LeadsTo (route : Route) (d : Document) : Prop :=
  route.document? = some d ∧ ¬ route.Misspelled

namespace Document

/-- The parts of the paths that a document is served under, without the first.  A proxy may name its
cluster and itself when it asks for a list. -/
inductive ServedUnder : Document → List Part → Prop where
  | registration {name : Part} (h : name ≠ []) :
      ServedUnder registration ["registration".toList, name]
  | clusters : ServedUnder clusters ["clusters".toList]
  | clustersFor {cluster node : Part} (h : node ≠ []) :
      ServedUnder clusters ["clusters".toList, cluster, node]
  | listeners : ServedUnder listeners ["listeners".toList]
  | listenersFor {cluster node : Part} (h : node ≠ []) :
      ServedUnder listeners ["listeners".toList, cluster, node]

/-- A path is one that a document is served under, and each of its parts spells a text. -/
def IsAt (d : Document) (path : List Char) : Prop :=
  ∃ parts, d.ServedUnder parts ∧
    (∀ part ∈ parts, '/' ∉ part ∧ Http.spelledText? part ≠ none) ∧
    path = "/v1/".toList ++ ['/'].intercalate parts

end Document

/-! ## From parts to routes -/

namespace Route

theorem ofPath_parts {parts : List Part} (hne : parts ≠ []) (hfree : ∀ part ∈ parts, '/' ∉ part) :
    ofPath ("/v1/".toList ++ ['/'].intercalate parts) = underVersion parts := by
  have hjoined : "/v1/".toList ++ ['/'].intercalate parts =
      '/' :: ['/'].intercalate ("v1".toList :: parts) := by
    rw [List.intercalate_cons_of_ne_nil hne]
    rfl
  have hparts : Text.splitParts (· == '/') (['/'].intercalate ("v1".toList :: parts)) =
      "v1".toList :: parts := by
    apply (Text.splitParts_eq_iff (List.cons_ne_nil _ _)).2
    refine ⟨?_, rfl⟩
    rw [List.forall_mem_cons]
    exact ⟨by decide, hfree⟩
  rw [hjoined, ofPath, hparts]
  exact if_pos rfl

theorem exists_parts_of_ofPath {path : List Char} {route : Route} {d : Document}
    (h : ofPath path = some route) (hd : route.document? = some d) :
    ∃ parts, (∀ part ∈ parts, '/' ∉ part) ∧ path = "/v1/".toList ++ ['/'].intercalate parts ∧
      underVersion parts = some route := by
  unfold ofPath at h
  split at h
  case h_2 => cases h
  case h_1 rest =>
    split at h
    case h_1 => cases h
    case h_2 first parts hsplit =>
      obtain ⟨hfree, hrest⟩ := (Text.splitParts_eq_iff (List.cons_ne_nil _ _)).1 hsplit
      by_cases hfirst : first = "v1".toList
      · rw [if_pos hfirst] at h
        have hne : parts ≠ [] := by
          rintro rfl
          cases h
        refine ⟨parts, fun part hpart => hfree part (List.mem_cons_of_mem first hpart), ?_, h⟩
        rw [hrest, hfirst, List.intercalate_cons_of_ne_nil hne]
        rfl
      · -- Outside `/v1` there are no documents.
        rw [if_neg hfirst] at h
        split_ifs at h <;> cases h <;> cases hd

theorem exists_underVersion {d : Document} {parts : List Part} (h : d.ServedUnder parts) :
    ∃ route, underVersion parts = some route ∧ route.document? = some d := by
  cases h with
  | @registration name hname => exact ⟨.service name, by simp [underVersion, hname], rfl⟩
  | clusters => exact ⟨.clusters none, rfl, rfl⟩
  | @clustersFor cluster node hnode =>
      exact ⟨.clusters (some (cluster, node)), by simp [underVersion, hnode], rfl⟩
  | listeners => exact ⟨.listeners none, rfl, rfl⟩
  | @listenersFor cluster node hnode =>
      exact ⟨.listeners (some (cluster, node)), by simp [underVersion, hnode], rfl⟩

/-- The words that stand in the paths of documents can be read. -/
theorem spelledText?_word : ∀ word ∈ ["registration".toList, "clusters".toList, "listeners".toList],
    Http.spelledText? word ≠ none := by
  decide +kernel

theorem servedUnder_of_underVersion {d : Document} {parts : List Part} {route : Route}
    (h : underVersion parts = some route) (hd : route.document? = some d) :
    d.ServedUnder parts ∧ (route.Misspelled ↔ ∃ part ∈ parts, Http.spelledText? part = none) := by
  have hregistration := spelledText?_word "registration".toList (by simp)
  have hclusters := spelledText?_word "clusters".toList (by simp)
  have hlisteners := spelledText?_word "listeners".toList (by simp)
  unfold underVersion at h
  split at h
  case h_1 first =>
    split_ifs at h with h1 h2 h3 <;> cases h <;> cases hd
    · rw [h1]
      refine ⟨.clusters, ?_⟩
      simp only [Misspelled, List.mem_singleton, exists_eq_left, hclusters]
    · rw [h2]
      refine ⟨.listeners, ?_⟩
      simp only [Misspelled, List.mem_singleton, exists_eq_left, hlisteners]
  case h_2 first name =>
    split_ifs at h with h1
    cases h
    cases hd
    rw [h1.1]
    refine ⟨.registration (by simpa using h1.2), ?_⟩
    simp only [Misspelled, List.exists_mem_cons_iff, hregistration, false_or, List.not_mem_nil,
      false_and, exists_false, or_false]
  case h_3 first cluster node =>
    split_ifs at h with h1 h2 h3 <;> cases h <;> cases hd
    · rw [h2]
      refine ⟨.clustersFor (by simpa using h1), ?_⟩
      simp only [Misspelled, List.exists_mem_cons_iff, hclusters, false_or, List.not_mem_nil,
        false_and, exists_false, or_false]
    · rw [h3]
      refine ⟨.listenersFor (by simpa using h1), ?_⟩
      simp only [Misspelled, List.exists_mem_cons_iff, hlisteners, false_or, List.not_mem_nil,
        false_and, exists_false, or_false]
  case h_4 => cases h

end Route

/-- The router leads to a document from just the paths that it is served under. -/
theorem Document.isAt_iff {d : Document} {path : List Char} :
    d.IsAt path ↔ ∃ route, Route.ofPath path = some route ∧ route.LeadsTo d := by
  constructor
  · rintro ⟨parts, hserved, hparts, rfl⟩
    obtain ⟨route, hroute, hd⟩ := Route.exists_underVersion hserved
    have hne : parts ≠ [] := by
      rintro rfl
      cases hroute
    refine ⟨route, ?_, hd, ?_⟩
    · rw [Route.ofPath_parts hne fun part hpart => (hparts part hpart).1, hroute]
    · rw [(Route.servedUnder_of_underVersion hroute hd).2]
      rintro ⟨part, hpart, hnone⟩
      exact (hparts part hpart).2 hnone
  · rintro ⟨route, hpath, hd, hspelled⟩
    obtain ⟨parts, hfree, rfl, hroute⟩ := Route.exists_parts_of_ofPath hpath hd
    obtain ⟨hserved, hmisspelled⟩ := Route.servedUnder_of_underVersion hroute hd
    refine ⟨parts, hserved, ?_, rfl⟩
    intro part hpart
    exact ⟨hfree part hpart, fun hnone => hspelled (hmisspelled.2 ⟨part, hpart, hnone⟩)⟩

/-- No path is that of two documents. -/
theorem Document.eq_of_isAt {d d' : Document} {path : List Char} (h : d.IsAt path)
    (h' : d'.IsAt path) : d = d' := by
  obtain ⟨route, hroute, hd, -⟩ := isAt_iff.1 h
  obtain ⟨route', hroute', hd', -⟩ := isAt_iff.1 h'
  have hsame : route = route' := Option.some.inj (hroute.symm.trans hroute')
  rw [← hsame] at hd'
  exact Option.some.inj (hd.symm.trans hd')

instance : DecidablePred Route.Misspelled
  | .service name => inferInstanceAs (Decidable (Http.spelledText? name = none))
  | .clusters (some (cluster, node)) | .listeners (some (cluster, node)) =>
    inferInstanceAs (Decidable (Http.spelledText? cluster = none ∨ Http.spelledText? node = none))
  | .clusters none | .listeners none | .unserved | .health | .metrics | .description =>
    inferInstanceAs (Decidable False)

instance (route : Route) (d : Document) : Decidable (route.LeadsTo d) :=
  inferInstanceAs (Decidable (_ ∧ ¬ _))

instance (d : Document) (path : List Char) : Decidable (d.IsAt path) :=
  decidable_of_iff (∃ route ∈ Route.ofPath path, route.LeadsTo d) Document.isAt_iff.symm

end MeshRegistry.Api
