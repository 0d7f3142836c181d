import MeshRegistry.Api.Site

/-!
# How failures are reported

A request that fails is told so in JSON: a status that says `error`, and a message.  There is one
exception.  A route may name a service or a proxy by parts of its path, and a request for such a route
is answered with plain text if one of these parts is not UTF-8.
-/

namespace MeshRegistry.Api

open Http (Response)

/-- The response reports an error in JSON. -/
def IsErrorReport (r : Response) : Prop :=
  r.header? "content-type" = some "application/json" ∧
    ∃ message, r.body = .json (.object [("status", .text "error"), ("message", .text message)])

theorem isErrorReport_toResponse (r : Refusal) : IsErrorReport r.toResponse :=
  ⟨rfl, r.message, rfl⟩

theorem isErrorReport_methodRefused (route : Route) : IsErrorReport (Site.methodRefused route) :=
  ⟨rfl, Refusal.methodNotAllowed.message, rfl⟩

theorem not_isErrorReport_notUtf8 (name : String) : ¬ IsErrorReport (notUtf8 name) := by
  rintro ⟨-, message, hbody⟩
  cases hbody

/-- A part of the path that names a service or a proxy is not UTF-8. -/
def Route.Misspelled : Route → Prop
  | .service name => Http.spelledText? name = none
  | .clusters (some (cluster, node)) | .listeners (some (cluster, node)) =>
    Http.spelledText? cluster = none ∨ Http.spelledText? node = none
  | _ => False

theorem Route.Misspelled.get_mem_methods {route : Route} (h : route.Misspelled) :
    "GET" ∈ route.methods := by
  cases route with
  | service _ | clusters _ | listeners _ => exact List.mem_cons_self
  | _ => exact h.elim

theorem Route.methods_subset (route : Route) : route.methods ⊆ ["GET", "HEAD", "OPTIONS"] := by
  cases route <;> simp [methods]

/-- A page is asked for by the parts of a path of which one is not UTF-8. -/
def AsksMisspelled (method : String) (path : List Char) : Prop :=
  method = "GET" ∧ ∃ route, Route.ofPath path = some route ∧ route.Misspelled

/-- What a request for a route comes to. -/
inductive Site.Fetched (s : Site) : Route → Response → Site → Prop where
  | misspelled {route : Route} {name : String} (h : route.Misspelled) :
      s.Fetched route (notUtf8 name) s
  | service {part : Part} {name : String} (h : Http.spelledText? part = some name) :
      s.Fetched (.service part) (s.servicePage name) (s.counted (.discovery .registration))
  | clusters {proxy : Option (Part × Part)} (h : ¬ (Route.clusters proxy).Misspelled) :
      s.Fetched (.clusters proxy) s.clusterPage (s.counted (.discovery .clusters))
  | listeners {proxy : Option (Part × Part)} (h : ¬ (Route.listeners proxy).Misspelled) :
      s.Fetched (.listeners proxy) s.listenerPage (s.counted (.discovery .listeners))
  | health : s.Fetched .health (.plain 200 "OK") s
  | metrics : s.Fetched .metrics s.counterPage s
  | description : s.Fetched .description (.json 200 Description.document) s
  | unserved : s.Fetched .unserved preflight s

namespace Site

theorem misspelled_eq_none {proxy : Option (Part × Part)} (h : misspelled proxy = none) :
    ¬ (Route.clusters proxy).Misspelled ∧ ¬ (Route.listeners proxy).Misspelled := by
  cases proxy with
  | none => exact ⟨id, id⟩
  | some parts =>
      obtain ⟨cluster, node⟩ := parts
      cases hcluster : Http.spelledText? cluster <;> cases hnode : Http.spelledText? node <;>
        simp_all [misspelled, Route.Misspelled]

theorem misspelled_eq_some {proxy : Option (Part × Part)} {r : Response}
    (h : misspelled proxy = some r) :
    (∃ name, r = notUtf8 name) ∧
      (Route.clusters proxy).Misspelled ∧ (Route.listeners proxy).Misspelled := by
  cases proxy with
  | none => cases h
  | some parts =>
      obtain ⟨cluster, node⟩ := parts
      cases hcluster : Http.spelledText? cluster <;> cases hnode : Http.spelledText? node <;>
        simp_all [misspelled, Route.Misspelled] <;> exact ⟨_, h.symm⟩

theorem fetched_fetch (s : Site) (route : Route) :
    s.Fetched route (s.fetch route).1 (s.fetch route).2 := by
  cases route with
  | service part =>
      rw [fetch]
      cases hname : Http.spelledText? part with
      | none => exact .misspelled hname
      | some name => exact .service hname
  | clusters proxy =>
      rw [fetch]
      cases hproxy : misspelled proxy with
      | none => exact .clusters (misspelled_eq_none hproxy).1
      | some r =>
          obtain ⟨⟨name, rfl⟩, hroute, -⟩ := misspelled_eq_some hproxy
          exact .misspelled hroute
  | listeners proxy =>
      rw [fetch]
      cases hproxy : misspelled proxy with
      | none => exact .listeners (misspelled_eq_none hproxy).2
      | some r =>
          obtain ⟨⟨name, rfl⟩, -, hroute⟩ := misspelled_eq_some hproxy
          exact .misspelled hroute
  | unserved => exact .unserved
  | health => exact .health
  | metrics => exact .metrics
  | description => exact .description

theorem isErrorReport_servicePage {s : Site} {name : String}
    (h : 400 ≤ (s.servicePage name).status) : IsErrorReport (s.servicePage name) := by
  unfold servicePage at h ⊢
  cases hdocument : s.registry.serviceDocument s.clock name with
  | ok d =>
      rw [hdocument] at h
      have hstatus : 400 ≤ 200 := h
      omega
  | error e => exact isErrorReport_toResponse (.ofError e)

theorem isErrorReport_counterPage {s : Site} (h : 400 ≤ s.counterPage.status) :
    IsErrorReport s.counterPage := by
  unfold counterPage at h ⊢
  split
  case isTrue hshown =>
    rw [if_pos hshown] at h
    have hstatus : 400 ≤ 200 := h
    omega
  case isFalse => exact isErrorReport_toResponse _

theorem Fetched.report {s after : Site} {route : Route} {r : Response}
    (h : s.Fetched route r after) (hstatus : 400 ≤ r.status) :
    (route.Misspelled ∧ ∃ name, r = notUtf8 name) ∨ (¬ route.Misspelled ∧ IsErrorReport r) := by
  cases h with
  | misspelled hroute => exact .inl ⟨hroute, _, rfl⟩
  | service hname =>
      refine .inr ⟨?_, isErrorReport_servicePage hstatus⟩
      intro hnone
      rw [Route.Misspelled, hname] at hnone
      cases hnone
  | metrics => exact .inr ⟨id, isErrorReport_counterPage hstatus⟩
  -- Every other page that can be had has the status 200.
  | clusters _ | listeners _ | health | description | unserved =>
      have hok : 400 ≤ 200 := hstatus
      omega

theorem respond_of_ofPath {method : String} {path : List Char} {route : Route}
    (hmethod : method ≠ "HEAD") (h : Route.ofPath path = some route) (s : Site) :
    s.respond method path =
      if method ∉ route.methods then (methodRefused route, s)
      else if method = "OPTIONS" then (preflight, s)
      else s.fetch route := by
  rw [respond, h]
  simp only [List.contains_eq_mem, if_neg hmethod]
  by_cases hmem : method ∈ route.methods <;> simp [hmem]

theorem respond_report {s : Site} {method : String} {path : List Char} (hmethod : method ≠ "HEAD")
    (hstatus : 400 ≤ (s.respond method path).1.status) :
    (AsksMisspelled method path ∧ ∃ name, (s.respond method path).1 = notUtf8 name) ∨
      (¬ AsksMisspelled method path ∧ IsErrorReport (s.respond method path).1) := by
  cases hroute : Route.ofPath path with
  | none =>
      rw [respond, hroute]
      refine .inr ⟨?_, isErrorReport_toResponse _⟩
      rintro ⟨-, route, hsome, -⟩
      rw [hroute] at hsome
      cases hsome
  | some route =>
      have hasks : AsksMisspelled method path ↔ method = "GET" ∧ route.Misspelled := by
        simp [AsksMisspelled, hroute]
      rw [respond_of_ofPath hmethod hroute] at hstatus ⊢
      rw [hasks]
      by_cases hmem : method ∉ route.methods
      · rw [if_pos hmem]
        refine .inr ⟨?_, isErrorReport_methodRefused route⟩
        rintro ⟨rfl, hmisspelled⟩
        exact hmem hmisspelled.get_mem_methods
      rw [if_neg hmem] at hstatus ⊢
      by_cases hoptions : method = "OPTIONS"
      · rw [if_pos hoptions] at hstatus
        have hok : 400 ≤ 200 := hstatus
        omega
      · have hget : method = "GET" := by
          have hlisted := route.methods_subset (Decidable.not_not.1 hmem)
          simpa [hmethod, hoptions] using hlisted
        rw [if_neg hoptions] at hstatus ⊢
        have hreport := (fetched_fetch s route).report hstatus
        simpa only [hget, true_and] using hreport

theorem answer_unreadable_name (s : Site) :
    s.answer? "GET" "/v1/registration/%FF".toList = some (notUtf8 "service", s) := by
  have htarget : Http.targetPath? "/v1/registration/%FF".toList =
      some "/v1/registration/%FF".toList := by decide +kernel
  have hroute : Route.ofPath "/v1/registration/%FF".toList = some (.service "%FF".toList) := by
    decide +kernel
  have hspelled : Http.spelledText? "%FF".toList = none := by decide +kernel
  have hrespond : s.respond "GET" "/v1/registration/%FF".toList = (notUtf8 "service", s) := by
    rw [respond_of_ofPath (by decide) hroute, if_neg (by simp [Route.methods]), if_neg (by decide),
      fetch]
    simp only [hspelled]
  rw [answer?, htarget, if_pos (by decide), Option.map_some, hrespond]

/-- A failure is reported in JSON, except that of a name in the path that is not UTF-8, which is
plain text. -/
theorem isErrorReport_iff_of_answer {s after : Site} {method : String} {target : List Char}
    {response : Response} (hmethod : method ≠ "HEAD")
    (h : s.answer? method target = some (response, after)) (hstatus : 400 ≤ response.status) :
    (IsErrorReport response ↔
        ¬ ∃ path, Http.targetPath? target = some path ∧ AsksMisspelled method path) ∧
      (IsErrorReport response ∨ ∃ name, response = notUtf8 name) := by
  have hpath : ∃ path, Http.targetPath? target = some path ∧
      s.respond method path = (response, after) := by
    unfold answer? at h
    split at h
    case isTrue => simpa using h
    case isFalse => cases h
  obtain ⟨path, htarget, hrespond⟩ := hpath
  simp only [htarget, Option.some.injEq, exists_eq_left']
  have hfailed : 400 ≤ (s.respond method path).1.status := by rwa [hrespond]
  have hreport := respond_report hmethod hfailed
  rw [hrespond] at hreport
  obtain ⟨hasks, name, rfl⟩ | ⟨hasks, hresponse⟩ := hreport
  · exact ⟨iff_of_false (not_isErrorReport_notUtf8 name) (not_not_intro hasks), .inr ⟨name, rfl⟩⟩
  · exact ⟨iff_of_true hresponse hasks, .inl hresponse⟩

theorem isErrorReport_iff_unreadable_name :
    "GET" ≠ "HEAD" ∧ 400 ≤ (notUtf8 "service").status ∧
      (IsErrorReport (notUtf8 "service") ↔
        ¬ ∃ path, Http.targetPath? "/v1/registration/%FF".toList = some path ∧
          AsksMisspelled "GET" path) ∧
      (IsErrorReport (notUtf8 "service") ∨ ∃ name, notUtf8 "service" = notUtf8 name) :=
  ⟨by decide, by decide,
    isErrorReport_iff_of_answer (by decide) (answer_unreadable_name (.start ⟨0⟩ true)) (by decide)⟩

theorem not_all_failures_are_error_reports :
    ¬ ∀ (s after : Site) (method : String) (target : List Char) (response : Response),
      method ≠ "HEAD" → s.answer? method target = some (response, after) →
        400 ≤ response.status → IsErrorReport response := by
  intro h
  have hanswer := answer_unreadable_name (.start ⟨0⟩ true)
  have hreport := h _ _ _ _ _ (by decide) hanswer (by decide)
  exact not_isErrorReport_notUtf8 _ hreport

end Site

end MeshRegistry.Api
