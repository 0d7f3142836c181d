import MeshRegistry.Proofs.Api.Paths
import MeshRegistry.Proofs.Http.Spelling
import MeshRegistry.Proofs.Http.Targets

/-!
# The page of a service

The last part of a path names the service whose page is asked for.  However its name is spelled there,
the response is the page of that service, and no two services have the same page.
-/

namespace MeshRegistry.Api

open Http (Response Spells)

def servicePrefix : List Char := "/v1/registration/".toList

theorem ofPath_servicePrefix (part : Part) :
    Route.ofPath (servicePrefix ++ part) =
      Route.underVersion ("registration".toList :: Text.splitParts (· == '/') part) := by
  have hne := Text.splitParts_ne_nil (· == '/') part
  obtain ⟨hfree, hjoin⟩ := (Text.splitParts_eq_iff hne).1 rfl
  have hwords : ∀ word ∈ "registration".toList :: Text.splitParts (· == '/') part, '/' ∉ word := by
    rw [List.forall_mem_cons]
    exact ⟨by decide, hfree⟩
  have hpath : servicePrefix ++ part = "/v1/".toList ++
      ['/'].intercalate ("registration".toList :: Text.splitParts (· == '/') part) := by
    rw [List.intercalate_cons_of_ne_nil hne, ← hjoin]
    rfl
  rw [hpath, Route.ofPath_parts (List.cons_ne_nil _ _) hwords]

theorem ofPath_service {part : Part} (hne : part ≠ []) (hslash : '/' ∉ part) :
    Route.ofPath (servicePrefix ++ part) = some (.service part) := by
  have hsingle : Text.splitParts (· == '/') part = [part] :=
    Text.splitParts_eq_singleton fun c hc => beq_eq_false_iff_ne.2 fun h => hslash (h ▸ hc)
  rw [ofPath_servicePrefix, hsingle]
  simp [Route.underVersion, hne]

/-- Behind the prefix nothing is served where a name is missing or holds a slash. -/
theorem ofPath_service_eq_none {part : Part} (h : part = [] ∨ '/' ∈ part) :
    Route.ofPath (servicePrefix ++ part) = none := by
  rw [ofPath_servicePrefix]
  rcases h with rfl | h
  · rfl
  · have hne := Text.splitParts_ne_nil (· == '/') part
    obtain ⟨hfree, hjoin⟩ := (Text.splitParts_eq_iff hne).1 rfl
    -- A part with a slash in it is cut into two at least.
    match hparts : Text.splitParts (· == '/') part with
    | [] => exact absurd hparts hne
    | [first] =>
        rw [hparts, List.intercalate_singleton] at hjoin
        rw [hparts, List.forall_mem_singleton, ← hjoin] at hfree
        exact absurd h hfree
    | [first, second] => simp [Route.underVersion]
    | _ :: _ :: _ :: _ => rfl

namespace Site

theorem servicePage_of_some {s : Site} {k : String} {e : Endpoint} (h : s.registry.get? k = some e) :
    ∃ d, s.registry.serviceDocument s.clock k = .ok d ∧ d.service = k ∧
      s.servicePage k = .json 200 d.toJson := by
  rw [servicePage, Registry.serviceDocument, h]
  exact ⟨_, rfl, rfl, rfl⟩

theorem servicePage_of_none {s : Site} {k : String} (h : s.registry.get? k = none) :
    s.servicePage k = (Refusal.notFound ("no instances of '" ++ k ++ "' found")).toResponse := by
  rw [servicePage, Registry.serviceDocument, h]
  rfl

/-- The text that tells of a missing service names it. -/
theorem missing_injective {k k' : String}
    (h : "no instances of '" ++ k ++ "' found" = "no instances of '" ++ k' ++ "' found") : k = k' :=
  (String.append_right_inj _).1 ((String.append_left_inj _).1 h)

/-- What tells documents apart by their services, and refusals by their texts, tells pages apart. -/
theorem injective_on_pages {α : Type} (s : Site) (view : Response → α)
    (hfound : ∀ d d' : Discovery.ServiceDocument,
      view (.json 200 d.toJson) = view (.json 200 d'.toJson) → d.service = d'.service)
    (hmissing : ∀ m m' : String, view (Refusal.notFound m).toResponse =
      view (Refusal.notFound m').toResponse → m = m')
    (hdiffer : ∀ (d : Discovery.ServiceDocument) (m : String),
      view (.json 200 d.toJson) ≠ view (Refusal.notFound m).toResponse) {k k' : String}
    (h : view (s.servicePage k) = view (s.servicePage k')) : k = k' := by
  cases hk : s.registry.get? k with
  | some e =>
      obtain ⟨d, -, hservice, hpage⟩ := servicePage_of_some hk
      rw [hpage] at h
      cases hk' : s.registry.get? k' with
      | some e' =>
          obtain ⟨d', -, hservice', hpage'⟩ := servicePage_of_some hk'
          rw [hpage'] at h
          rw [← hservice, ← hservice', hfound d d' h]
      | none =>
          rw [servicePage_of_none hk'] at h
          exact absurd h (hdiffer d _)
  | none =>
      rw [servicePage_of_none hk] at h
      cases hk' : s.registry.get? k' with
      | some e' =>
          obtain ⟨d', -, -, hpage'⟩ := servicePage_of_some hk'
          rw [hpage'] at h
          exact absurd h.symm (hdiffer d' _)
      | none =>
          rw [servicePage_of_none hk'] at h
          exact missing_injective (hmissing _ _ h)

/-- No two services have the same page. -/
theorem servicePage_injective (s : Site) : Function.Injective s.servicePage := by
  intro k k'
  apply s.injective_on_pages id
  · intro d d' h
    simp only [id, Response.json, Response.mk.injEq, Discovery.ServiceDocument.toJson,
      Discovery.ServiceDocument.toJsonListing] at h
    simp_all
  · intro m m' h
    simp only [id, Refusal.toResponse, Response.json, Response.mk.injEq, Http.Body.json.injEq] at h
    simp_all [Refusal.message]
  · intro d m h
    cases congrArg Response.status h

theorem respond_service (s : Site) {part : Part} {k : String} (hne : part ≠ []) (hslash : '/' ∉ part)
    (hpart : Http.spelledText? part = some k) :
    s.respond "GET" (servicePrefix ++ part) =
      (s.servicePage k, s.counted (.discovery .registration)) := by
  rw [respond_of_ofPath (by decide) (ofPath_service hne hslash), if_neg (by simp [Route.methods]),
    if_neg (by decide), fetch, hpart]

theorem respond_misspelled (s : Site) {part : Part} (hne : part ≠ []) (hslash : '/' ∉ part)
    (hpart : Http.spelledText? part = none) :
    s.respond "GET" (servicePrefix ++ part) = (notUtf8 "service", s) := by
  rw [respond_of_ofPath (by decide) (ofPath_service hne hslash), if_neg (by simp [Route.methods]),
    if_neg (by decide), fetch, hpart]

theorem respond_of_no_part (s : Site) {part : Part} (h : part = [] ∨ '/' ∈ part) :
    s.respond "GET" (servicePrefix ++ part) = ((Refusal.notFound "Not Found").toResponse, s) := by
  rw [respond, ofPath_service_eq_none h]

theorem part_ne_nil {part : Part} {k : String} (hk : k ≠ "") (hpart : Http.spelledText? part = some k) :
    part ≠ [] := by
  rintro rfl
  have hempty : Http.spelledText? [] = some "" := by decide
  rw [hempty, Option.some_inj] at hpart
  exact hk hpart.symm

/-- A request for the page of a service, its name spelled in any way, gets the document of that service
if it is registered and is told that it is missing if not, and gets the page of no other service. -/
theorem answer_spelledName (s : Site) {k : String} (hk : k ≠ "") {name : List Char}
    (hname : Spells name (Text.bytes k))
    (hfits : (String.ofList ("/v1/registration/".toList ++ name)).utf8ByteSize ≤ Http.maxTarget) :
    ∃ r, s.answer? "GET" ("/v1/registration/".toList ++ name) =
        some (r, s.counted (.discovery .registration)) ∧
      (∀ e, s.registry.get? k = some e →
        ∃ d, s.registry.serviceDocument s.clock k = .ok d ∧ d.service = k ∧ r = .json 200 d.toJson) ∧
      (s.registry.get? k = none →
        r = .json 404 (.object
          [("status", .text "error"), ("message", .text ("no instances of '" ++ k ++ "' found"))])) ∧
      ∀ k', r = s.servicePage k' → k' = k := by
  have hpath : ∀ c ∈ "v1/registration/".toList ++ name, Http.isPathChar c = true := by
    have hprefix : ∀ c ∈ "v1/registration/".toList, Http.isPathChar c = true :=
      List.all_eq_true.1 (by decide)
    intro c hc
    rcases List.mem_append.1 hc with hc | hc
    · exact hprefix c hc
    · exact (hname.forall_mem c hc).1
  have htarget : Http.targetPath? ("/v1/registration/".toList ++ name) =
      some (servicePrefix ++ name) := Http.targetPath?_path hfits hpath
  have hslash : '/' ∉ name := fun h => (hname.forall_mem '/' h).2 rfl
  have hspelled := Http.spelledText?_of_spells hname
  have hrespond := s.respond_service (part_ne_nil hk hspelled) hslash hspelled
  refine ⟨s.servicePage k, ?_, fun _ => servicePage_of_some, servicePage_of_none, ?_⟩
  · rw [answer?, if_pos (by decide), htarget, Option.map_some, hrespond]
  · intro k' hsame
    exact (s.servicePage_injective hsame).symm

/-- A service whose label holds a letter beyond ASCII, a slash and what looks like an escape. -/
def awkwardEndpoint : Endpoint where
  frontend := .v4 ⟨127, 0, 0, 1⟩ 80
  backend := .v4 ⟨172, 17, 0, 2⟩ 8080
  service := "é/%41"
  environment := "dev"
  mode := .http

def awkwardSite : Site where
  registry := Registry.empty.put awkwardEndpoint.key awkwardEndpoint
  counters := .zero
  clock := ⟨0⟩
  showsCounters := false

theorem awkwardSite_get? : awkwardSite.registry.get? "é/%41-dev-80" = some awkwardEndpoint := by
  have hkey : awkwardEndpoint.key.text = "é/%41-dev-80" := by decide
  rw [awkwardSite, Registry.get?_put, if_pos hkey]

theorem spells_awkward : Spells "%C3%a9%2F%2541-dev-80".toList (Text.bytes "é/%41-dev-80") :=
  .cons (.escaped (.inr (by decide)) (.inl (by decide))) <|
  .cons (.escaped (.inl (by decide)) (.inl (by decide))) <|
  .cons (.escaped (.inl (by decide)) (.inr (by decide))) <|
  .cons (.escaped (.inl (by decide)) (.inl (by decide))) <|
  Http.spells_self (s := "41-dev-80".toList) (List.all_eq_true.1 (by decide))

theorem answer_spelledName_awkward :
    "é/%41-dev-80" ≠ "" ∧ Spells "%C3%a9%2F%2541-dev-80".toList (Text.bytes "é/%41-dev-80") ∧
      (String.ofList ("/v1/registration/".toList ++ "%C3%a9%2F%2541-dev-80".toList)).utf8ByteSize ≤
        Http.maxTarget ∧
      ∃ d : Discovery.ServiceDocument,
        awkwardSite.answer? "GET" "/v1/registration/%C3%a9%2F%2541-dev-80".toList =
          some (.json 200 d.toJson, awkwardSite.counted (.discovery .registration)) ∧
        d.service = "é/%41-dev-80" := by
  have hfits : (String.ofList ("/v1/registration/".toList ++
      "%C3%a9%2F%2541-dev-80".toList)).utf8ByteSize ≤ Http.maxTarget := by decide +kernel
  obtain ⟨r, hanswer, hfound, -, -⟩ :=
    answer_spelledName awkwardSite (by decide) spells_awkward hfits
  obtain ⟨d, -, hservice, rfl⟩ := hfound _ awkwardSite_get?
  exact ⟨by decide, spells_awkward, hfits, d, hanswer, hservice⟩

end Site

end MeshRegistry.Api
