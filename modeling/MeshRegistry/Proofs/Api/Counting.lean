import Mathlib.Algebra.Ring.Nat
import MeshRegistry.Proofs.Api.Paths
import MeshRegistry.Proofs.Registration.Acceptance

/-!
# What the counters count

A request to the registry is counted under its action and how it ended, and a request over HTTP under
the document whose page it reaches.  Nothing else is counted, and no counter is ever set back.
-/

namespace MeshRegistry.Api

/-- A request over HTTP reaches the page of a document. -/
def Document.IsAskedFor (d : Document) (method : String) (target : List Char) : Prop :=
  (method = "GET" ∨ method = "HEAD") ∧ ∃ path ∈ Http.targetPath? target, d.IsAt path

instance (d : Document) (method : String) (target : List Char) :
    Decidable (d.IsAskedFor method target) :=
  inferInstanceAs (Decidable (_ ∧ _))

theorem Document.IsAskedFor.eq {d d' : Document} {method : String} {target : List Char}
    (h : d.IsAskedFor method target) (h' : d'.IsAskedFor method target) : d = d' := by
  obtain ⟨-, path, htarget, hat⟩ := h
  obtain ⟨-, path', htarget', hat'⟩ := h'
  have hsame : path = path' := Option.some.inj (htarget.symm.trans htarget')
  exact Document.eq_of_isAt hat (hsame ▸ hat')

/-- What a site is asked. -/
inductive Ask where
  | registry (request : Request)
  | page (method : String) (target : List Char)

namespace Ask

def request? : Ask → Option Request
  | registry request => some request
  | page _ _ => none

/-- The page of a document is asked for. -/
def IsFor (d : Document) : Ask → Prop
  | registry _ => False
  | page method target => d.IsAskedFor method target

instance (d : Document) : DecidablePred (IsFor d)
  | registry _ => inferInstanceAs (Decidable False)
  | page method target => inferInstanceAs (Decidable (d.IsAskedFor method target))

end Ask

namespace Site

/-- The site once a request over HTTP is answered, if it was one. -/
def visited (s : Site) (method : String) (target : List Char) : Site :=
  (s.answer? method target).elim s Prod.snd

/-- The requests to the registry among all that a site is asked, each with its reply, and the site in
the end. -/
def serve (s : Site) : List Ask → List (Request × Reply) × Site
  | [] => ([], s)
  | .registry request :: rest =>
    let (reply, after) := s.handle request
    let (handled, last) := after.serve rest
    ((request, reply) :: handled, last)
  | .page method target :: rest => (s.visited method target).serve rest

/-! ## One request -/

theorem handle_fst (s : Site) (q : Request) : (s.handle q).1 = q.reply := by
  rw [handle, Registry.answer_eq]

theorem value_counted (s : Site) (k k' : Counter) :
    (s.counted k).counters.value k' = s.counters.value k' + if k' = k then 1 else 0 :=
  Counters.value_increment s.counters k k'

/-- A request to the registry is counted under its action and how it ended. -/
theorem value_handle (s : Site) (q : Request) (k : Counter) :
    (s.handle q).2.counters.value k =
      s.counters.value k + if k = .registrations q.action q.reply.isSuccess then 1 else 0 := by
  have hreply := s.handle_fst q
  rw [← hreply]
  exact value_counted _ _ k

/-- A page of a document counts, and no other. -/
theorem Fetched.site {s after : Site} {route : Route} {r : Http.Response}
    (h : s.Fetched route r after) :
    (∃ d, route.LeadsTo d ∧ after = s.counted (.discovery d)) ∨
      ((∀ d, ¬ route.LeadsTo d) ∧ after = s) := by
  cases h with
  | misspelled hroute => exact .inr ⟨fun d hd => hd.2 hroute, rfl⟩
  | service hname =>
      refine .inl ⟨.registration, ⟨rfl, ?_⟩, rfl⟩
      rw [Route.Misspelled, hname]
      exact Option.some_ne_none _
  | clusters hproxy => exact .inl ⟨.clusters, ⟨rfl, hproxy⟩, rfl⟩
  | listeners hproxy => exact .inl ⟨.listeners, ⟨rfl, hproxy⟩, rfl⟩
  | health | metrics | description | unserved =>
      refine .inr ⟨?_, rfl⟩
      rintro d ⟨hd, -⟩
      cases hd

/-- Every route from which something can be had admits the methods that have it. -/
theorem mem_methods_or_unserved (route : Route) :
    ("GET" ∈ route.methods ∧ "HEAD" ∈ route.methods) ∨ route = .unserved := by
  cases route with
  | unserved => exact .inr rfl
  | _ => exact .inl ⟨by simp [Route.methods], by simp [Route.methods]⟩

/-- Only a request that has something may change the site. -/
theorem respond_snd {path : List Char} {route : Route} (h : Route.ofPath path = some route) (s : Site)
    (method : String) :
    (s.respond method path).2 =
      if method = "GET" ∨ method = "HEAD" then (s.fetch route).2 else s := by
  unfold respond
  simp only [h, List.contains_eq_mem]
  by_cases hmem : method ∈ route.methods
  · have hlisted := route.methods_subset hmem
    simp only [List.mem_cons, List.not_mem_nil, or_false] at hlisted
    rcases hlisted with rfl | rfl | rfl <;> simp [hmem]
  · rw [if_pos (by simp [hmem])]
    split_ifs with hpage
    · have hunserved : route = .unserved := by
        obtain ⟨hget, hhead⟩ | hunserved := mem_methods_or_unserved route
        · rcases hpage with rfl | rfl
          · exact absurd hget hmem
          · exact absurd hhead hmem
        · exact hunserved
      rw [hunserved, fetch]
    · rfl

theorem respond_site (s : Site) (method : String) (path : List Char) :
    (∃ d : Document, ((method = "GET" ∨ method = "HEAD") ∧ d.IsAt path) ∧
        (s.respond method path).2 = s.counted (.discovery d)) ∨
      ((∀ d : Document, ¬ ((method = "GET" ∨ method = "HEAD") ∧ d.IsAt path)) ∧
        (s.respond method path).2 = s) := by
  simp only [Document.isAt_iff]
  cases hroute : Route.ofPath path with
  | none =>
      rw [respond, hroute]
      refine .inr ⟨?_, rfl⟩
      rintro d ⟨-, route, hsome, -⟩
      cases hsome
  | some route =>
      simp only [Option.some.injEq, exists_eq_left', respond_snd hroute]
      by_cases hpage : method = "GET" ∨ method = "HEAD"
      · simp only [hpage, true_and, if_true]
        exact (fetched_fetch s route).site
      · simp only [hpage, false_and, not_false_eq_true, implies_true, if_false, true_and, or_true]

/-- A request over HTTP is counted under the document whose page it reaches, or not at all. -/
theorem visited_cases (s : Site) (method : String) (target : List Char) :
    (∃ d : Document, d.IsAskedFor method target ∧
        s.visited method target = s.counted (.discovery d)) ∨
      ((∀ d : Document, ¬ d.IsAskedFor method target) ∧ s.visited method target = s) := by
  unfold visited answer? Document.IsAskedFor
  cases htarget : Http.targetPath? target with
  | none => exact .inr ⟨by simp, by split <;> rfl⟩
  | some path =>
      simp only [Option.mem_def, Option.some.injEq, exists_eq_left', Option.map_some]
      by_cases hmethod : Http.isMethod method = true
      · rw [if_pos hmethod]
        exact respond_site s method path
      · rw [if_neg hmethod]
        refine .inr ⟨?_, rfl⟩
        rintro d ⟨rfl | rfl, -⟩ <;> exact hmethod (by decide)

theorem value_visited_registrations (s : Site) (method : String) (target : List Char)
    (action : Action) (isOk : Bool) :
    (s.visited method target).counters.value (.registrations action isOk) =
      s.counters.value (.registrations action isOk) := by
  obtain ⟨d, -, hafter⟩ | ⟨-, hafter⟩ := s.visited_cases method target
  · rw [hafter, value_counted, if_neg (by simp), Nat.add_zero]
  · rw [hafter]

theorem value_visited_discovery (s : Site) (method : String) (target : List Char) (d : Document) :
    (s.visited method target).counters.value (.discovery d) =
      s.counters.value (.discovery d) + if d.IsAskedFor method target then 1 else 0 := by
  obtain ⟨d', hasked, hafter⟩ | ⟨hnone, hafter⟩ := s.visited_cases method target
  · have hsame : Counter.discovery d = .discovery d' ↔ d.IsAskedFor method target := by
      rw [Counter.discovery.injEq]
      constructor
      · rintro rfl
        exact hasked
      · exact fun h => h.eq hasked
    rw [hafter, value_counted]
    simp only [hsame]
  · rw [hafter, if_neg (hnone d), Nat.add_zero]

/-! ## A run of requests -/

theorem serve_registry (s : Site) (q : Request) (rest : List Ask) :
    s.serve (.registry q :: rest) =
      ((q, q.reply) :: ((s.handle q).2.serve rest).1, ((s.handle q).2.serve rest).2) := by
  rw [← s.handle_fst q]
  rfl

theorem serve_page (s : Site) (method : String) (target : List Char) (rest : List Ask) :
    s.serve (.page method target :: rest) = (s.visited method target).serve rest := rfl

theorem requests_serve (s : Site) (asks : List Ask) :
    (s.serve asks).1 = (asks.filterMap Ask.request?).map fun q => (q, q.reply) := by
  induction asks generalizing s with
  | nil => rfl
  | cons a rest ih =>
      cases a with
      | registry q =>
          have hmap : (Ask.registry q).request? = some q := rfl
          rw [serve_registry, ih, List.filterMap_cons_some hmap, List.map_cons]
      | page method target => rw [serve_page, ih, List.filterMap_cons_none rfl]

theorem value_serve_registrations (s : Site) (asks : List Ask) (action : Action) (isOk : Bool) :
    (s.serve asks).2.counters.value (.registrations action isOk) =
      s.counters.value (.registrations action isOk) +
        (s.serve asks).1.countP fun (q, reply) => q.action = action ∧ reply.isSuccess = isOk := by
  induction asks generalizing s with
  | nil => rfl
  | cons a rest ih =>
      cases a with
      | registry q =>
          have hcounted : Counter.registrations action isOk =
              .registrations q.action q.reply.isSuccess ↔
                q.action = action ∧ q.reply.isSuccess = isOk := by
            rw [Counter.registrations.injEq, eq_comm, @eq_comm _ isOk]
          simp only [serve_registry, ih, value_handle, hcounted, List.countP_cons,
            decide_eq_true_eq]
          omega
      | page method target => rw [serve_page, ih, value_visited_registrations]

theorem value_serve_discovery (s : Site) (asks : List Ask) (d : Document) :
    (s.serve asks).2.counters.value (.discovery d) =
      s.counters.value (.discovery d) + asks.countP fun a => a.IsFor d := by
  induction asks generalizing s with
  | nil => rfl
  | cons a rest ih =>
      rw [List.countP_cons]
      cases a with
      | registry q =>
          have hnot : ¬ (Ask.registry q).IsFor d := id
          rw [serve_registry, ih, value_handle, if_neg (by simp), decide_eq_false hnot]
          rfl
      | page method target =>
          have hiff : (Ask.page method target).IsFor d ↔ d.IsAskedFor method target := Iff.rfl
          rw [serve_page, ih, value_visited_discovery]
          simp only [decide_eq_true_eq, hiff]
          omega

/-! ## All counters -/

/-- Every way a request can be counted is one of these. -/
theorem sum_countP_outcomes (handled : List (Request × Reply)) :
    (([.unknown, .register, .deregister] : List Action).map fun action =>
      handled.countP (fun (q, reply) => q.action = action ∧ reply.isSuccess = false) +
        handled.countP fun (q, reply) => q.action = action ∧ reply.isSuccess = true).sum =
      handled.length := by
  induction handled with
  | nil => rfl
  | cons h rest ih =>
      obtain ⟨q, reply⟩ := h
      simp only [List.map_cons, List.map_nil, List.sum_cons, List.sum_nil, List.countP_cons,
        List.length_cons] at ih ⊢
      cases q.action <;> cases reply.isSuccess <;>
        simp only [reduceCtorEq, and_self, and_true, and_false, decide_true, decide_false,
          if_true, if_false] <;>
        omega

/-- What the counters have come to after all that was asked, if all of them were zero at first. -/
structure Tally (asks : List Ask) (handled : List (Request × Reply)) (c : Counters) : Prop where
  registrations : ∀ action isOk, c.value (.registrations action isOk) =
    handled.countP fun (q, reply) => q.action = action ∧ reply.isSuccess = isOk
  total : (([.unknown, .register, .deregister] : List Action).map fun action =>
      c.value (.registrations action false) + c.value (.registrations action true)).sum =
    handled.length
  unknown_ok : c.value (.registrations .unknown true) = 0
  deregister_failed : c.value (.registrations .deregister false) = 0
  discovery : ∀ d, c.value (.discovery d) = asks.countP fun a => a.IsFor d

theorem isSuccess_of_mem_serve {s : Site} {asks : List Ask} {q : Request} {reply : Reply}
    (h : (q, reply) ∈ (s.serve asks).1) : reply.isSuccess = decide q.Accepted := by
  rw [requests_serve] at h
  obtain ⟨q', -, hpair⟩ := List.mem_map.1 h
  cases hpair
  exact Request.isSuccess_reply q

theorem tally_serve (s : Site) (asks : List Ask) :
    let served := { s with counters := .zero }.serve asks
    Tally asks served.1 served.2.counters := by
  intro served
  have hregistrations : ∀ action isOk, served.2.counters.value (.registrations action isOk) =
      served.1.countP fun (q, reply) => q.action = action ∧ reply.isSuccess = isOk := by
    intro action isOk
    have hvalue := value_serve_registrations { s with counters := .zero } asks action isOk
    rwa [Counters.zero, Nat.zero_add] at hvalue
  refine ⟨hregistrations, ?_, ?_, ?_, ?_⟩
  · simp only [hregistrations]
    exact sum_countP_outcomes served.1
  · rw [hregistrations, List.countP_eq_zero]
    rintro ⟨q, reply⟩ hmem hcounted
    obtain ⟨haction, hok⟩ := of_decide_eq_true hcounted
    have haccepted : q.Accepted := by
      apply of_decide_eq_true
      rw [← isSuccess_of_mem_serve hmem, hok]
    simp [Request.Accepted, haction] at haccepted
  · rw [hregistrations, List.countP_eq_zero]
    rintro ⟨q, reply⟩ hmem hcounted
    obtain ⟨haction, hfailed⟩ := of_decide_eq_true hcounted
    have hrejected : ¬ q.Accepted := by
      apply of_decide_eq_false
      rw [← isSuccess_of_mem_serve hmem, hfailed]
    exact hrejected (.inl haction)
  · intro d
    have hvalue := value_serve_discovery { s with counters := .zero } asks d
    rwa [Counters.zero, Nat.zero_add] at hvalue

/-- The names of the proxy asking do not matter, but they have to spell texts. -/
example : Document.clusters.IsAskedFor "HEAD" "/v1/clusters/c/%C3%BC?full=1".toList ∧
    ¬ Document.clusters.IsAskedFor "GET" "/v1/clusters/c/%FC".toList ∧
    ¬ Document.clusters.IsAskedFor "OPTIONS" "/v1/clusters".toList := by
  decide +kernel

end Site

end MeshRegistry.Api
