import MeshRegistry.Control.Run
import MeshRegistry.Proofs.Api.Services
import MeshRegistry.Proofs.CommandLine.Typed
import MeshRegistry.Proofs.Discovery.Messages
import MeshRegistry.Proofs.Http.Urls
import MeshRegistry.Proofs.Json.Skipped
import MeshRegistry.Proofs.Registration.Acceptance

/-!
# Services shown to an operator

The name that an operator gives is pasted into the address of a page.  A client that leaves slashes,
question marks, number signs and percent signs as they stand gets the page of that service just when
the name holds none of them, other than percent signs without two digits behind them.
-/

namespace MeshRegistry.Control

open Api (Site servicePrefix)
open CommandLine (Environment Progress Spec apiVariable socketVariable)
open Http (IsKept IsQuery PathEncoding pathText percentEncode)

/-- Nothing in a name means anything in an address. -/
structure IsPlain (name : List Char) : Prop where
  ne_nil : name ≠ []
  slash : '/' ∉ name
  question : '?' ∉ name
  number : '#' ∉ name
  escape : ¬ Http.HasEscape name

/-- What a site answers a request for a target with, as a client sees it. -/
def pageAt (site : Site) (target : List Char) : Option Http.Answer :=
  (site.answer? "GET" target).map fun (response, _) => response.toAnswer

/-- Behind an address stands a site, and a client asks it for the path of what follows the address,
unless it gives up because that is too long. -/
def Network.Reaches (net : Network) (api : String) (site : Site) (encoding : PathEncoding) : Prop :=
  ∀ s, IsKept s → ∃ query, IsQuery query ∧ (pathText s = s → query = []) ∧
    let target := percentEncode encoding.isReserved ('/' :: pathText s) ++ query
    (net (api ++ String.ofList ('/' :: s)) = none ∨
        net (api ++ String.ofList ('/' :: s)) = pageAt site target) ∧
      ((api ++ String.ofList target).utf8ByteSize ≤ Http.maxTarget →
        net (api ++ String.ofList ('/' :: s)) = pageAt site target)

/-! ## Reading a page -/

section Reading

variable {net : Network} {url : String} {site : Site} {k k' : String}

theorem decode_refusal (r : Api.Refusal) :
    Json.decodeAll reasonDecoder r.toResponse.toAnswer.body = .ok r.message :=
  Json.decodeAll_of_takes (Json.record_takes_behind_text (by simp [Json.Fields.names])
    (.present (Json.text_takes r.message) .nil) (by simp [Json.Fields.names]) _ _ _)

theorem message_eq_of_toAnswer_eq {r r' : Api.Refusal}
    (h : r.toResponse.toAnswer = r'.toResponse.toAnswer) : r.message = r'.message := by
  have hread := decode_refusal r
  rw [h, decode_refusal r', Except.ok.injEq] at hread
  exact hread.symm

theorem fetchService_refused {r : Api.Refusal} (h : net url = some r.toResponse.toAnswer) :
    fetchService net url = .error (.refused r.message) := by
  have hstatus : ¬ (200 ≤ r.status ∧ r.status < 300) := by
    cases r <;> simp [Api.Refusal.status]
  rw [fetchService, h]
  simp only [decode_refusal]
  exact if_neg hstatus

theorem fetchService_page (h : net url = some (site.servicePage k).toAnswer) :
    (∀ e, site.registry.get? k = some e →
      ∃ d, site.registry.serviceDocument site.clock k = .ok d ∧
        fetchService net url = .ok d) ∧
    (site.registry.get? k = none →
      fetchService net url = .error (.refused ("no instances of '" ++ k ++ "' found"))) := by
  constructor
  · intro e he
    obtain ⟨d, hd, -, hpage⟩ := Site.servicePage_of_some he
    have hbody : Discovery.ServiceDocument.decode (site.servicePage k).toAnswer.body = .ok d := by
      rw [hpage]
      exact d.decode_toJson
    have hstatus : 200 ≤ (site.servicePage k).toAnswer.status ∧
        (site.servicePage k).toAnswer.status < 300 := by
      rw [hpage]
      exact ⟨show 200 ≤ 200 by decide, show 200 < 300 by decide⟩
    refine ⟨d, hd, ?_⟩
    rw [fetchService, h]
    simp only [hbody, if_pos hstatus]
    rfl
  · intro hnone
    rw [Site.servicePage_of_none hnone] at h
    exact fetchService_refused h

/-- What a client sees of a page tells whose page it is. -/
theorem servicePage_toAnswer_injective
    (h : (site.servicePage k).toAnswer = (site.servicePage k').toAnswer) : k = k' := by
  refine site.injective_on_pages Http.Response.toAnswer ?_ ?_ ?_ h
  · intro d d' hsame
    have hread : Discovery.ServiceDocument.decode (Http.Response.json 200 d.toJson).toAnswer.body =
        .ok d := d.decode_toJson
    rw [hsame] at hread
    cases hread.symm.trans d'.decode_toJson
    rfl
  · intro m m' hsame
    exact message_eq_of_toAnswer_eq hsame
  · intro d m hsame
    cases congrArg Http.Answer.status hsame

/-- The answer to a path that leads nowhere is no page of a service. -/
theorem servicePage_toAnswer_ne_notFound :
    (site.servicePage k).toAnswer ≠ (Api.Refusal.notFound "Not Found").toResponse.toAnswer := by
  intro h
  cases hk : site.registry.get? k with
  | some e =>
      obtain ⟨d, -, -, hpage⟩ := Site.servicePage_of_some hk
      rw [hpage] at h
      cases congrArg Http.Answer.status h
  | none =>
      rw [Site.servicePage_of_none hk] at h
      have hmessage : "no instances of '" ++ k ++ "' found" = "Not Found" :=
        message_eq_of_toAnswer_eq h
      have hfirst := congrArg (fun s => s.toList.head?) hmessage
      simp at hfirst

theorem servicePage_toAnswer_ne_notUtf8 (name : String) :
    (site.servicePage k).toAnswer ≠ (Api.notUtf8 name).toAnswer := by
  intro h
  have hstatus : (site.servicePage k).status = 400 := congrArg Http.Answer.status h
  cases hk : site.registry.get? k with
  | some e =>
      obtain ⟨d, -, -, hpage⟩ := Site.servicePage_of_some hk
      rw [hpage] at hstatus
      cases hstatus
  | none =>
      rw [Site.servicePage_of_none hk] at hstatus
      cases hstatus

end Reading

/-! ## The address of a page -/

section Address

variable {net : Network} {api name : String} {site : Site} {encoding : PathEncoding}

theorem percentEncode_servicePrefix (encoding : PathEncoding) :
    percentEncode encoding.isReserved servicePrefix = servicePrefix := by
  have hchars : ∀ c ∈ servicePrefix, (c == '/' || Http.isUnreserved c) = true :=
    List.all_eq_true.1 (by decide)
  apply Http.percentEncode_eq_self
  intro c hc
  rcases Bool.or_eq_true_iff.1 (hchars c hc) with hslash | hunreserved
  · rw [beq_iff_eq.1 hslash]
    exact encoding.slash
  · exact encoding.unreserved c hunreserved

/-- What an operator's client asks for, and what it gets if it gets anything. -/
theorem Network.Reaches.service (hnet : net.Reaches api site encoding) (hkept : IsKept name.toList) :
    ∃ query, IsQuery query ∧ (pathText name.toList = name.toList → query = []) ∧
      let target := servicePrefix ++ percentEncode encoding.isReserved (pathText name.toList) ++ query
      (net (api ++ "/v1/registration/" ++ name) = none ∨
          net (api ++ "/v1/registration/" ++ name) = pageAt site target) ∧
        ((api ++ String.ofList target).utf8ByteSize ≤ Http.maxTarget →
          net (api ++ "/v1/registration/" ++ name) = pageAt site target) := by
  have hpath : pathText ("v1/registration/".toList ++ name.toList) =
      "v1/registration/".toList ++ pathText name.toList :=
    List.takeWhile_append_of_pos (List.all_eq_true.1 (by decide))
  have hencode : percentEncode encoding.isReserved
      ('/' :: ("v1/registration/".toList ++ pathText name.toList)) =
        servicePrefix ++ percentEncode encoding.isReserved (pathText name.toList) := by
    have happend := @Http.percentEncode_append encoding.isReserved servicePrefix
      (pathText name.toList)
    rwa [percentEncode_servicePrefix] at happend
  have hurl : api ++ "/v1/registration/" ++ name =
      api ++ String.ofList ('/' :: ("v1/registration/".toList ++ name.toList)) := by
    rw [← String.toList_inj]
    simp
  have hwhole : IsKept ("v1".toList ++ '/' :: ("registration".toList ++ '/' :: name.toList)) :=
    (hkept.behind_part (by simp) (by decide +kernel)).behind_part (by simp) (by decide +kernel)
  obtain ⟨query, hquery, hempty, hreach⟩ := hnet ("v1/registration/".toList ++ name.toList) hwhole
  rw [hpath, List.append_cancel_left_eq] at hempty
  rw [hpath, hencode, ← hurl] at hreach
  exact ⟨query, hquery, hempty, hreach⟩

theorem pageAt_service (site : Site) {part query : List Char}
    (hpart : ∀ c ∈ part, Http.isPathChar c = true) (hquery : IsQuery query)
    (hfits : (String.ofList (servicePrefix ++ part ++ query)).utf8ByteSize ≤ Http.maxTarget) :
    pageAt site (servicePrefix ++ part ++ query) =
      some (site.respond "GET" (servicePrefix ++ part)).1.toAnswer := by
  have hpath : ∀ c ∈ "v1/registration/".toList ++ part, Http.isPathChar c = true := by
    rw [List.forall_mem_append]
    exact ⟨List.all_eq_true.1 (by decide), hpart⟩
  have htarget : Http.targetPath? (servicePrefix ++ part ++ query) = some (servicePrefix ++ part) :=
    Http.targetPath?_append hfits hpath hquery.1 hquery.2
  rw [pageAt, Site.answer?, if_pos (by decide), htarget]
  rfl

theorem page_of_isPlain (hnet : net.Reaches api site encoding) (hkept : IsKept name.toList)
    (hplain : IsPlain name.toList)
    (hfits : (api ++ "/v1/registration/" ++
      String.ofList (percentEncode encoding.isReserved name.toList)).utf8ByteSize ≤ Http.maxTarget) :
    net (api ++ "/v1/registration/" ++ name) = some (site.servicePage name).toAnswer := by
  have hwhole : pathText name.toList = name.toList := by
    rw [pathText, List.takeWhile_eq_self_iff]
    intro c hc
    exact decide_eq_true ⟨fun h => hplain.question (h ▸ hc), fun h => hplain.number (h ▸ hc)⟩
  obtain ⟨query, hquery, hempty, -, hreach⟩ := hnet.service hkept
  rw [hempty hwhole, hwhole, List.append_nil] at hreach
  let part := percentEncode encoding.isReserved name.toList
  have hspelled : Http.spelledText? part = some name := by
    rw [encoding.spelledText?, Http.spelledText?,
      Http.percentDecode_of_not_hasEscape hplain.escape, Text.ofBytes?, Text.Utf8.decode_encode,
      Option.map_some, String.ofList_toList]
  have hslash : '/' ∉ part := mt encoding.slash_mem_iff.1 hplain.slash
  have hne : name ≠ "" := fun h => hplain.ne_nil (by rw [h]; rfl)
  have hsize : (api ++ String.ofList (servicePrefix ++ part)).utf8ByteSize ≤ Http.maxTarget := by
    rw [String.ofList_append, ← String.append_assoc]
    exact hfits
  have htarget : (String.ofList (servicePrefix ++ part ++ [])).utf8ByteSize ≤ Http.maxTarget := by
    rw [List.append_nil]
    exact (Nat.le_add_left _ _).trans (String.utf8ByteSize_append ▸ hsize)
  have hpage := pageAt_service site (encoding.isPathChar name.toList) Http.isQuery_nil htarget
  rw [List.append_nil, site.respond_service (Site.part_ne_nil hne hspelled) hslash hspelled] at hpage
  rw [hreach hsize, hpage]

theorem le_maxTarget_of_pageAt {target : List Char} {a : Http.Answer}
    (h : pageAt site target = some a) :
    (String.ofList target).utf8ByteSize ≤ Http.maxTarget := by
  rw [pageAt, Site.answer?, if_pos (by decide), Option.map_map, Option.map_eq_some_iff] at h
  obtain ⟨path, hpath, -⟩ := h
  exact Http.le_maxTarget hpath

/-- A text that is cut off in front of a question mark or a number sign, or that holds escapes, spells
fewer bytes than it has. -/
theorem eq_of_spelledText?_pathText (h : Http.spelledText? (pathText name.toList) = some name) :
    pathText name.toList = name.toList ∧ ¬ Http.HasEscape name.toList := by
  rw [Http.spelledText?, Text.ofBytes?, Option.map_eq_some_iff] at h
  obtain ⟨s, hdecode, hs⟩ := h
  obtain rfl : s = name.toList := by rw [← hs, String.toList_ofList]
  have hbytes := Text.Utf8.encode_of_decode hdecode
  obtain ⟨behind, hname, -⟩ := Http.exists_eq_pathText_append name.toList
  have hlength : (Text.Utf8.encode name.toList).length =
      (Text.Utf8.encode (pathText name.toList)).length + (Text.Utf8.encode behind).length := by
    rw [← List.length_append, ← Text.Utf8.encode_append, ← hname]
  have hspelled := (Http.length_percentDecode_le (pathText name.toList)).1
  rw [← hbytes] at hspelled
  have hnothing : behind = [] :=
    Text.Utf8.encode_injective (List.eq_nil_of_length_eq_zero (by omega))
  have hwhole : pathText name.toList = name.toList := by
    rw [hnothing, List.append_nil] at hname
    exact hname.symm
  rw [hwhole] at hbytes ⊢
  exact ⟨rfl, Http.percentDecode_eq_encode_iff.1 hbytes.symm⟩

/-- What comes back for a name: nothing is served for a path without a name or with a slash in it, and
otherwise the text that is spelled counts. -/
theorem answer_service (hnet : net.Reaches api site encoding) (hkept : IsKept name.toList)
    {a : Http.Answer} (ha : net (api ++ "/v1/registration/" ++ name) = some a) :
    ((pathText name.toList = [] ∨ '/' ∈ pathText name.toList) ∧
      a = (Api.Refusal.notFound "Not Found").toResponse.toAnswer) ∨
    (pathText name.toList ≠ [] ∧ '/' ∉ pathText name.toList ∧
      ((Http.spelledText? (pathText name.toList) = none ∧ a = (Api.notUtf8 "service").toAnswer) ∨
        ∃ k, Http.spelledText? (pathText name.toList) = some k ∧
          a = (site.servicePage k).toAnswer)) := by
  obtain ⟨query, hquery, -, hreach, -⟩ := hnet.service hkept
  let part := percentEncode encoding.isReserved (pathText name.toList)
  have hanswer : pageAt site (servicePrefix ++ part ++ query) = some a := by
    rcases hreach with hnone | hsame
    · rw [hnone] at ha
      cases ha
    · rw [← hsame, ha]
  rw [pageAt_service site (encoding.isPathChar _) hquery (le_maxTarget_of_pageAt hanswer),
    Option.some.injEq] at hanswer
  have hnil : part = [] ↔ pathText name.toList = [] := Http.percentEncode_eq_nil_iff
  have hslash : '/' ∈ part ↔ '/' ∈ pathText name.toList := encoding.slash_mem_iff
  rw [← hnil, ← hslash, ← encoding.spelledText?, ← hanswer]
  by_cases hpart : part = [] ∨ '/' ∈ part
  · exact .inl ⟨hpart, by rw [site.respond_of_no_part hpart]⟩
  rw [not_or] at hpart
  refine .inr ⟨mt hnil.2 hpart.1, hpart.2, ?_⟩
  cases hspelled : Http.spelledText? part with
  | none => exact .inl ⟨rfl, by rw [site.respond_misspelled hpart.1 hpart.2 hspelled]⟩
  | some k => exact .inr ⟨k, rfl, by rw [site.respond_service hpart.1 hpart.2 hspelled]⟩

theorem isPlain_of_page (hnet : net.Reaches api site encoding) (hkept : IsKept name.toList)
    (hpage : net (api ++ "/v1/registration/" ++ name) = some (site.servicePage name).toAnswer) :
    IsPlain name.toList := by
  obtain ⟨-, hanswer⟩ | ⟨hne, hslash, ⟨-, hanswer⟩ | ⟨k, hspelled, hanswer⟩⟩ :=
    answer_service hnet hkept hpage
  · exact absurd hanswer servicePage_toAnswer_ne_notFound
  · exact absurd hanswer (servicePage_toAnswer_ne_notUtf8 _)
  · obtain rfl : name = k := servicePage_toAnswer_injective hanswer
    obtain ⟨hwhole, hescape⟩ := eq_of_spelledText?_pathText hspelled
    have hfree : ∀ c ∈ name.toList, c ≠ '?' ∧ c ≠ '#' := by
      rw [← hwhole]
      exact fun c => Http.ne_of_mem_pathText
    rw [hwhole] at hne hslash
    exact ⟨hne, hslash, fun h => (hfree _ h).1 rfl, fun h => (hfree _ h).2 rfl, hescape⟩

/-- A slash in a name leads past all pages. -/
theorem fetchService_of_slash (hnet : net.Reaches api site encoding) (hkept : IsKept name.toList)
    (hslash : '/' ∈ pathText name.toList) :
    fetchService net (api ++ "/v1/registration/" ++ name) =
        .error (.noAnswer (api ++ "/v1/registration/" ++ name)) ∨
      fetchService net (api ++ "/v1/registration/" ++ name) = .error (.refused "Not Found") := by
  cases ha : net (api ++ "/v1/registration/" ++ name) with
  | none =>
      left
      rw [fetchService, ha]
  | some a =>
      right
      obtain ⟨-, rfl⟩ | ⟨-, hfree, -⟩ := answer_service hnet hkept ha
      · exact fetchService_refused (r := .notFound "Not Found") ha
      · exact absurd hslash hfree

end Address

/-! ## The command -/

/-- Where the documents are, if the command line does not say so. -/
def apiOf (env : Environment) : String :=
  (env apiVariable).getD standardApi

/-- The command to show a service, with no options in front of it. -/
def Invocation.showing (env : Environment) (name : String) : Invocation where
  command := .service name
  api := apiOf env
  socket := (env socketVariable).getD Channel.standardSocket

theorem read_of_readCommand {env : Environment} {args : List String} {name : String}
    (h : readCommand "service" (args.map .text) = .ok (.service name)) :
    Invocation.read env ("service" :: args) = .ok (.showing env name) := by
  have hscan : rootSpec.scan .start (("service" :: args).map .text) =
      .ok (.start, some ("service", args.map .text)) := rfl
  simp only [Invocation.read, hscan, bind, Except.bind, h]
  rfl

/-- A name may follow the command, behind two dashes if it looks like an option itself. -/
theorem read_service (env : Environment) (name : String) :
    Invocation.read env ["service", "--", name] = .ok (.showing env name) ∧
      (name.toList.head? ≠ some '-' →
        Invocation.read env ["service", name] = .ok (.showing env name)) := by
  constructor
  · exact read_of_readCommand rfl
  · intro hname
    apply read_of_readCommand
    obtain ⟨hlong, hshort⟩ := CommandLine.not_option hname
    have hdashes : name ≠ "--" := by
      rintro rfl
      exact hname rfl
    have hscan : (plainSpec 1).scan .start [.text name] =
        .ok (⟨[], none, [.text name], false⟩, none) := by
      rw [Spec.scan_cons rfl]
      simp [Spec.scan, Spec.argument, Spec.positional, plainSpec, Progress.start, Progress.resolve,
        hlong, hshort, hdashes, bind, Except.bind, pure, Except.pure]
    simp only [readCommand, Spec.read, List.map_cons, List.map_nil, hscan]
    rfl

/-- An operator who asks for a service with a plain name is shown its document if it is registered and
told that it is missing if not.  The page of a service with any other name is never what is fetched. -/
theorem run_service {net : Network} {site : Site} {encoding : PathEncoding} (env : Environment)
    {name : String} (hnet : net.Reaches (withoutSlashes (apiOf env)) site encoding)
    (hkept : IsKept name.toList)
    (hfits : (withoutSlashes (apiOf env) ++ "/v1/registration/" ++
      String.ofList (percentEncode encoding.isReserved name.toList)).utf8ByteSize ≤ Http.maxTarget)
    (line : Channel.Line) :
    ∃ i, Invocation.read env ["service", "--", name] = .ok i ∧
      (name.toList.head? ≠ some '-' → Invocation.read env ["service", name] = .ok i) ∧
      (net (withoutSlashes (apiOf env) ++ "/v1/registration/" ++ name) =
        some (site.servicePage name).toAnswer ↔ IsPlain name.toList) ∧
      (IsPlain name.toList →
        (∀ e, site.registry.get? name = some e →
          ∃ d, site.registry.serviceDocument site.clock name = .ok d ∧
            i.run net line = (.ok d.lines, line)) ∧
        (site.registry.get? name = none →
          i.run net line =
            (.error (.refused ("no instances of '" ++ name ++ "' found")), line))) := by
  obtain ⟨hliteral, hread⟩ := read_service env name
  refine ⟨.showing env name, hliteral, hread, ?_, ?_⟩
  · exact ⟨isPlain_of_page hnet hkept, fun hplain => page_of_isPlain hnet hkept hplain hfits⟩
  · intro hplain
    obtain ⟨hfound, hmissing⟩ := fetchService_page (page_of_isPlain hnet hkept hplain hfits)
    constructor
    · intro e he
      obtain ⟨d, hd, hfetch⟩ := hfound e he
      refine ⟨d, hd, ?_⟩
      simp only [Invocation.run, Invocation.showing, hfetch]
      rfl
    · intro hnone
      simp only [Invocation.run, Invocation.showing, hmissing hnone]
      rfl

/-! ## A client that does so -/

theorem Network.ofSite_reaches {host : List Char} (hhost : host ≠ [])
    (hchars : ∀ c ∈ host, Http.Url.isHostChar c = true) (site : Site) :
    (Network.ofSite host site).Reaches (String.ofList ("http://".toList ++ host)) site
      Http.Url.encoding := by
  intro s hs
  obtain ⟨query, hquery, hempty, hparse⟩ := Http.Url.parse?_of_isKept hhost hchars hs
  have hurl : (String.ofList ("http://".toList ++ host) ++ String.ofList ('/' :: s)).toList =
      "http://".toList ++ (host ++ '/' :: s) := by
    simp
  have hpage : Network.ofSite host site
      (String.ofList ("http://".toList ++ host) ++ String.ofList ('/' :: s)) =
        pageAt site (percentEncode Http.Url.isReservedInPath ('/' :: pathText s) ++ query) := by
    simp only [Network.ofSite, hurl, hparse, Option.bind_eq_bind, Option.bind_some, ne_eq,
      not_true_eq_false, if_false, pageAt]
    cases site.answer? "GET" _ <;> rfl
  exact ⟨query, hquery, hempty, .inr hpage, fun _ => hpage⟩

/-! ## A label with a slash -/

def requestFor (service : String) : Request where
  frontendAddr := "127.0.0.1"
  frontendPort := 80
  backendAddr := "172.17.0.2"
  backendPort := 8080
  service := service
  environment := "dev"
  mode := "http"
  action := .register

/-- Two services were registered, and the label of one holds a slash. -/
def pastedSite : Site where
  registry := ((Registry.empty.answer (requestFor "é %")).2.answer (requestFor "a/b")).2
  counters := .zero
  clock := ⟨0⟩
  showsCounters := false

def pastedNetwork : Network :=
  Network.ofSite "127.0.0.1:7776".toList pastedSite

theorem accepted_requestFor (service : String) : (requestFor service).Accepted :=
  .inr ⟨rfl, show Request.SpellsIp "127.0.0.1" by decide, show Request.SpellsIp "172.17.0.2" by decide,
    show ProxyMode.IsNamedBy "http" by decide⟩

theorem pastedSite_get? : (∃ e, pastedSite.registry.get? "é %-dev-80" = some e) ∧
    ∃ e, pastedSite.registry.get? "a/b-dev-80" = some e := by
  have hstored (service : String) : ∃ e, (requestFor service).stored? = some e :=
    (Request.exists_stored?_iff (accepted_requestFor service)).2 rfl
  have hfirst : (requestFor "é %").key.text = "é %-dev-80" := by decide
  have hsecond : (requestFor "a/b").key.text = "a/b-dev-80" := by decide
  rw [pastedSite, Registry.answer_eq, Registry.answer_eq]
  have hdiffer : "a/b-dev-80" ≠ "é %-dev-80" := by decide
  simp only [Registry.get?_after_of_accepted (accepted_requestFor _), hfirst, hsecond, hdiffer,
    if_true, if_false]
  exact ⟨hstored _, hstored _⟩

theorem pastedNetwork_reaches :
    pastedNetwork.Reaches (withoutSlashes (apiOf .empty)) pastedSite Http.Url.encoding := by
  have hapi : withoutSlashes (apiOf .empty) =
      String.ofList ("http://".toList ++ "127.0.0.1:7776".toList) := by decide
  rw [hapi]
  exact Network.ofSite_reaches (by decide) (List.all_eq_true.1 (by decide)) pastedSite

theorem run_service_pasted :
    (∃ e, pastedSite.registry.get? "é %-dev-80" = some e) ∧
      ∃ d : Discovery.ServiceDocument, ∃ i, Invocation.read .empty ["service", "é %-dev-80"] = .ok i ∧
        (i.run pastedNetwork ⟨.registry .empty, 0, []⟩).1 = .ok d.lines := by
  obtain ⟨e, he⟩ := pastedSite_get?.1
  have hkept : IsKept "é %-dev-80".toList := by decide +kernel
  have hplain : IsPlain "é %-dev-80".toList :=
    ⟨by decide, by decide, by decide, by decide, by decide +kernel⟩
  obtain ⟨i, -, hread, -, hrun⟩ := run_service .empty pastedNetwork_reaches hkept
    (by decide +kernel) ⟨.registry .empty, 0, []⟩
  obtain ⟨d, -, hshown⟩ := (hrun hplain).1 e he
  exact ⟨⟨e, he⟩, d, i, hread (by decide), by rw [hshown]⟩

/-- A service that is registered is reported missing if a slash stands in its name. -/
theorem not_all_services_are_shown :
    ¬ ∀ (k : String) (e : Endpoint) (i : Invocation) (line : Channel.Line),
      pastedSite.registry.get? k = some e → Invocation.read .empty ["service", k] = .ok i →
        ∃ d, pastedSite.registry.serviceDocument pastedSite.clock k = .ok d ∧
          (i.run pastedNetwork line).1 = .ok d.lines := by
  intro h
  obtain ⟨e, he⟩ := pastedSite_get?.2
  obtain ⟨-, hread⟩ := read_service .empty "a/b-dev-80"
  obtain ⟨d, -, hshown⟩ := h _ e _ ⟨.registry .empty, 0, []⟩ he (hread (by decide))
  have hkept : IsKept "a/b-dev-80".toList := by decide +kernel
  obtain hfetch | hfetch := fetchService_of_slash pastedNetwork_reaches hkept (by decide)
  all_goals
    simp only [Invocation.run, Invocation.showing, hfetch] at hshown
    cases hshown

end MeshRegistry.Control
