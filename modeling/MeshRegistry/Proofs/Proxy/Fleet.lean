import Mathlib.Logic.Function.Basic
import Mathlib.Logic.Relation
import MeshRegistry.Proofs.Channel.Calls
import MeshRegistry.Proofs.Proxy.Conduct
import MeshRegistry.Proofs.Proxy.Labels

/-!
# Fleets

Registrants call one registry, each for a mapping of its own.  A request that was sent is carried out
at any later moment or never, also when its caller no longer waits for the reply, and a caller that
hears of no success tries again.  So the registry may carry out several copies of one request, in
whatever order.  It reads a request whole or not at all, and deals with one at a time.

What it holds under the key of one registrant was settled by the last of that registrant's own
requests to take effect, whatever the others do.  Everything else follows from where the run of the
registrant stands.
-/

namespace MeshRegistry.Proxy

open Channel (Caller Connection Ending TakesEffect)
open Text (Bytes)

/-! ## The steps of a fleet -/

/-- A registrant, what its search comes to, and where it calls. -/
structure Member where
  registrant : Registrant
  lookup : Except ProxyError Labels
  caller : Caller

/-- The key that the requests of a member are about, if its search comes to anything. -/
def Member.Owns (m : Member) (k : ServiceKey) : Prop :=
  ∃ l, m.lookup = .ok l ∧ (m.registrant.registration l).key = k

/-- A request that the registry has read: which of its owner's requests it is, and what was answered
on its connection. -/
structure Arrival (ι : Type) where
  owner : ι
  number : Nat
  request : Request
  response : Bytes

structure Snapshot (ι : Type) where
  runs : ι → Run
  registry : Registry
  arrivals : List (Arrival ι)

/-- What can happen to a member with no answer of the registry: everything but the success of a
call. -/
def Happening.Spontaneous (lookup : Except ProxyError Labels) : Happening → Prop
  | .found outcome => outcome = lookup
  | .answered (.ok _) => False
  | .answered (.error _) | .graceOver | .stopRequested | .stopNoticed => True

abbrev Fleet (ι : Type) := ι → Member

variable {ι : Type}

namespace Snapshot

/-- The registry reads a request on a connection of its own. -/
def serve (s : Snapshot ι) (i : ι) (number : Nat) (q : Request) (chunks : List Bytes)
    (ending : Ending) : Snapshot ι :=
  let c := Connection.run Channel.standardMaxLine s.registry chunks ending
  { s with registry := c.registry, arrivals := s.arrivals ++ [⟨i, number, q, c.sent⟩] }

/-- Which requests the registry has read. -/
def read (s : Snapshot ι) : List (ι × Nat) :=
  s.arrivals.map fun a => (a.owner, a.number)

theorem read_serve (s : Snapshot ι) (i : ι) (number : Nat) (q : Request) (chunks : List Bytes)
    (ending : Ending) :
    (s.serve i number q chunks ending).read = s.read ++ [(i, number)] := by
  simp [read, serve]

/-- No request that was sent is on its way any more. -/
def Settled (s : Snapshot ι) : Prop :=
  ∀ i, ∀ number < (s.runs i).sent.length, (i, number) ∈ s.read

end Snapshot

/-- No two members call about one key. -/
def Fleet.KeysDiffer (F : Fleet ι) : Prop :=
  ∀ i j k, (F i).Owns k → (F j).Owns k → i = j

def Fleet.start (F : Fleet ι) (registry : Registry) : Snapshot ι :=
  ⟨fun i => Run.start (F i).registrant, registry, []⟩

variable [DecidableEq ι]

/-- Something happens to one run. -/
def Snapshot.happen (s : Snapshot ι) (i : ι) (h : Happening) : Snapshot ι :=
  { s with runs := Function.update s.runs i ((s.runs i).step h) }

/-- What a fleet and its registry can do: something happens to a member, a request that was sent is
read, a member hears the answer to its last request, or somebody else calls about another key. -/
inductive Fleet.Step (F : Fleet ι) (s : Snapshot ι) : Snapshot ι → Prop where
  | happens {i : ι} {h : Happening} (hh : h.Spontaneous (F i).lookup) : F.Step s (s.happen i h)
  | arrives {i : ι} {number : Nat} {q : Request} {chunks : List Bytes} {ending : Ending}
      (hsent : (s.runs i).sent[number]? = some q) (hnew : (i, number) ∉ s.read)
      (hchunks : chunks.flatten = Channel.requestLine q) :
      F.Step s (s.serve i number q chunks ending)
  | hears {a : Arrival ι} (ha : a ∈ s.arrivals)
      (hlast : a.number + 1 = (s.runs a.owner).sent.length) :
      F.Step s (s.happen a.owner (.answered ((F a.owner).caller.outcome (.bytes a.response))))
  | other {q : Request} (hq : ∀ i, ¬ (F i).Owns q.key) :
      F.Step s { s with registry := (s.registry.answer q).2 }

/-- What a fleet can come to with a registry that holds something at first. -/
def Fleet.Reaches (F : Fleet ι) (initial : Registry) (s : Snapshot ι) : Prop :=
  Relation.ReflTransGen F.Step (F.start initial) s

/-! ## Requests that were served -/

namespace Snapshot

variable (s : Snapshot ι)

/-- The requests of one member that the registry has read, in that order. -/
def served (i : ι) : List Request :=
  (s.arrivals.filter (·.owner = i)).map Arrival.request

theorem served_serve (i : ι) (number : Nat) (q : Request) (chunks : List Bytes) (ending : Ending)
    (j : ι) :
    (s.serve i number q chunks ending).served j =
      if i = j then s.served j ++ [q] else s.served j := by
  simp only [served, serve, List.filter_append, List.map_append]
  by_cases hij : i = j <;> simp [hij]

theorem mem_served_iff {i : ι} {q : Request} :
    q ∈ s.served i ↔ ∃ a ∈ s.arrivals, a.owner = i ∧ a.request = q := by
  simp [served, and_assoc]

/-- The last request of a member to take effect. -/
def lastEffect? (i : ι) : Option Request :=
  ((s.served i).filter TakesEffect).getLast?

theorem lastEffect?_serve (i : ι) (number : Nat) (q : Request) (chunks : List Bytes)
    (ending : Ending) (j : ι) :
    (s.serve i number q chunks ending).lastEffect? j =
      if TakesEffect q ∧ i = j then some q else s.lastEffect? j := by
  rw [lastEffect?, served_serve]
  by_cases hij : i = j
  · by_cases hq : TakesEffect q
    · simp [hij, hq]
    · simp [hij, hq, lastEffect?]
  · simp [hij, lastEffect?]

end Snapshot

/-! ## What holds wherever a fleet comes to -/

theorem Happening.Spontaneous.agrees {lookup : Except ProxyError Labels} {h : Happening}
    (hh : h.Spontaneous lookup) : h.Agrees lookup := by
  rintro outcome rfl
  exact hh

/-- A run has sent nothing but its two requests. -/
theorem Run.OnCourse.of_mem_sent {r : Registrant} {lookup : Except ProxyError Labels} {run : Run}
    (hrun : run.OnCourse r lookup) {q : Request} (hq : q ∈ run.sent) :
    ∃ l, lookup = .ok l ∧ (q = r.registration l ∨ q = r.removal l) := by
  cases hlookup : lookup with
  | error e =>
      rw [hrun.waypoint.sent_of_error hlookup] at hq
      cases hq
  | ok l =>
      obtain ⟨m, n, hsent, -⟩ := hrun.sent_of_ok hlookup
      rw [hsent, List.mem_append] at hq
      exact ⟨l, rfl, hq.imp List.eq_of_mem_replicate List.eq_of_mem_replicate⟩

theorem Member.Owns.unique {m : Member} {k k' : ServiceKey} (h : m.Owns k) (h' : m.Owns k') :
    k = k' := by
  obtain ⟨l, hl, rfl⟩ := h
  obtain ⟨l', hl', rfl⟩ := h'
  rw [Except.ok.inj (hl.symm.trans hl')]

theorem owns_of_mem_sent {m : Member} {run : Run} (hrun : run.OnCourse m.registrant m.lookup)
    {q : Request} (hq : q ∈ run.sent) : m.Owns q.key := by
  obtain ⟨l, hl, rfl | rfl⟩ := hrun.of_mem_sent hq
  · exact ⟨l, hl, rfl⟩
  · exact ⟨l, hl, rfl⟩

namespace Fleet

/-- The runs, the registry and what it has read belong together. -/
structure Coherent (F : Fleet ι) (initial : Registry) (s : Snapshot ι) : Prop where
  onCourse : ∀ i, (s.runs i).OnCourse (F i).registrant (F i).lookup
  sent : ∀ a ∈ s.arrivals, (s.runs a.owner).sent[a.number]? = some a.request
  answered : ∀ a ∈ s.arrivals, ∀ (caller : Caller) (reply : Reply),
    caller.outcome (.bytes a.response) = .ok reply → TakesEffect a.request
  done : ∀ i errand, (s.runs i).HasDone errand →
    ∃ q ∈ s.served i, TakesEffect q ∧ q.action = errand.action
  stored : ∀ i k, (F i).Owns k →
    s.registry.get? k.text = (s.lastEffect? i).elim (initial.get? k.text) Request.stored?

variable {F : Fleet ι} {initial : Registry} {s s' : Snapshot ι}

theorem coherent_start (F : Fleet ι) (initial : Registry) : F.Coherent initial (F.start initial) where
  onCourse i := Run.onCourse_start _ _
  sent a ha := by cases ha
  answered a ha := by cases ha
  done i errand hdone := by
    cases errand with
    | register => simp [Run.HasDone, start, Run.start] at hdone
    | deregister => cases hdone.1
  stored i k _ := rfl

namespace Coherent

theorem mem_sent (hs : F.Coherent initial s) {i : ι} {q : Request} (hq : q ∈ s.served i) :
    q ∈ (s.runs i).sent := by
  obtain ⟨a, ha, rfl, rfl⟩ := s.mem_served_iff.1 hq
  exact List.mem_of_getElem? (hs.sent a ha)

theorem registration_or_removal (hs : F.Coherent initial s) {i : ι} {l : Labels}
    (hl : (F i).lookup = .ok l) {q : Request} (hq : q ∈ s.served i) :
    q = (F i).registrant.registration l ∨ q = (F i).registrant.removal l := by
  obtain ⟨l', hl', hcopy⟩ := (hs.onCourse i).of_mem_sent (hs.mem_sent hq)
  rwa [Except.ok.inj (hl.symm.trans hl')]

/-- A happening keeps things together if, where it is the success of a call, a request for the same
errand has taken effect. -/
theorem happen (hs : F.Coherent initial s) {i : ι} {h : Happening} (hagrees : h.Agrees (F i).lookup)
    (hheard : ∀ reply errand q n, h = .answered (.ok reply) →
      (s.runs i).stage = .calling errand q n →
        ∃ q ∈ s.served i, TakesEffect q ∧ q.action = errand.action) :
    F.Coherent initial (s.happen i h) where
  onCourse j := by
    rcases eq_or_ne j i with rfl | hne
    · simpa [Snapshot.happen] using (hs.onCourse j).step hagrees
    · simpa [Snapshot.happen, hne] using hs.onCourse j
  sent a ha := by
    have hold := hs.sent a ha
    rcases eq_or_ne a.owner i with rfl | hne
    · have hgrown := ((s.runs a.owner).move_step h).sent_isPrefix
      obtain ⟨hlt, hrequest⟩ := List.getElem?_eq_some_iff.1 hold
      simpa [Snapshot.happen, hrequest] using List.prefix_iff_getElem?.1 hgrown a.number hlt
    · simpa [Snapshot.happen, hne] using hold
  answered := hs.answered
  done j errand hdone := by
    rcases eq_or_ne j i with rfl | hne
    · by_cases hbefore : (s.runs j).HasDone errand
      · exact hs.done j errand hbefore
      · have hafter : ((s.runs j).step h).HasDone errand := by
          simpa [Snapshot.happen] using hdone
        obtain ⟨⟨reply, hreply⟩, q, n, hstage⟩ :=
          ((s.runs j).move_step h).calling_of_hasDone hbefore hafter
        exact hheard reply errand q n hreply hstage
    · exact hs.done j errand (by simpa [Snapshot.happen, hne] using hdone)
  stored := hs.stored

theorem serve (hs : F.Coherent initial s) (hkeys : F.KeysDiffer) {i : ι} {number : Nat} {q : Request}
    {chunks : List Bytes} (hsent : (s.runs i).sent[number]? = some q)
    (hchunks : chunks.flatten = Channel.requestLine q) (ending : Ending) :
    F.Coherent initial (s.serve i number q chunks ending) where
  onCourse := hs.onCourse
  sent a ha := by
    rcases List.mem_append.1 ha with ha | ha
    · exact hs.sent a ha
    · obtain rfl := List.mem_singleton.1 ha
      exact hsent
  answered a ha caller reply hreply := by
    rcases List.mem_append.1 ha with ha | ha
    · exact hs.answered a ha caller reply hreply
    · obtain rfl := List.mem_singleton.1 ha
      exact Channel.takesEffect_of_outcome hchunks ending s.registry hreply
  done j errand hdone := by
    obtain ⟨q', hq', heffect⟩ := hs.done j errand hdone
    refine ⟨q', ?_, heffect⟩
    rw [Snapshot.served_serve]
    split
    · exact List.mem_append_left _ hq'
    · exact hq'
  stored j k hk := by
    have howns : (F i).Owns q.key := owns_of_mem_sent (hs.onCourse i) (List.mem_of_getElem? hsent)
    have hkey : q.key.text = k.text ↔ i = j := by
      constructor
      · intro htext
        have hsame : q.key = k := congrArg ServiceKey.mk htext
        exact hkeys i j k (hsame ▸ howns) hk
      · rintro rfl
        rw [howns.unique hk]
    rw [Snapshot.lastEffect?_serve, Snapshot.serve]
    dsimp only
    rw [Channel.get?_run_requestLine hchunks, hs.stored j k hk]
    simp only [hkey]
    split <;> rfl

theorem other (hs : F.Coherent initial s) {q : Request} (hq : ∀ i, ¬ (F i).Owns q.key) :
    F.Coherent initial { s with registry := (s.registry.answer q).2 } where
  onCourse := hs.onCourse
  sent := hs.sent
  answered := hs.answered
  done := hs.done
  stored i k hk := by
    have hne : q.key.text ≠ k.text := by
      intro htext
      have hsame : q.key = k := congrArg ServiceKey.mk htext
      exact hq i (hsame ▸ hk)
    have hold := hs.stored i k hk
    rw [Registry.answer_eq]
    by_cases haccepted : q.Accepted
    · rw [Registry.get?_after_of_accepted haccepted, if_neg hne]
      exact hold
    · rw [Registry.after_of_not_accepted haccepted]
      exact hold

/-- The answer to the last request that a member has sent is the answer to the call under way. -/
theorem hears (hs : F.Coherent initial s) {a : Arrival ι} (ha : a ∈ s.arrivals)
    (hlast : a.number + 1 = (s.runs a.owner).sent.length) :
    F.Coherent initial
      (s.happen a.owner (.answered ((F a.owner).caller.outcome (.bytes a.response)))) := by
  refine hs.happen (agrees_answered _ _) ?_
  intro reply errand q n hreply hstage
  obtain ⟨hq, haction⟩ := (hs.onCourse a.owner).getLast?_sent hstage
  have hrequest : a.request = q := by
    have hsent := hs.sent a ha
    rw [List.getLast?_eq_getElem?, ← hlast, Nat.add_sub_cancel, hsent] at hq
    exact Option.some.inj hq
  have heffect := hs.answered a ha _ _ (Happening.answered.inj hreply)
  exact ⟨a.request, s.mem_served_iff.2 ⟨a, ha, rfl, rfl⟩, heffect, hrequest ▸ haction⟩

theorem step (hs : F.Coherent initial s) (hkeys : F.KeysDiffer) (hstep : F.Step s s') :
    F.Coherent initial s' := by
  cases hstep with
  | happens hh =>
      refine hs.happen hh.agrees ?_
      rintro reply errand q n rfl
      exact hh.elim
  | arrives hsent hnew hchunks => exact hs.serve hkeys hsent hchunks _
  | hears ha hlast => exact hs.hears ha hlast
  | other hq => exact hs.other hq

end Coherent

theorem Reaches.coherent (hkeys : F.KeysDiffer) (hs : F.Reaches initial s) :
    F.Coherent initial s := by
  induction hs with
  | refl => exact coherent_start F initial
  | tail _ hstep ih => exact ih.step hkeys hstep

/-! ## A member that runs -/

namespace Coherent

/-- A member that has accomplished an errand has had an effect, and what is stored under its key was
settled by one of its own requests. -/
theorem exists_lastEffect? (hs : F.Coherent initial s) {i : ι} {errand : Errand}
    (hdone : (s.runs i).HasDone errand) :
    ∃ q ∈ s.served i, TakesEffect q ∧ s.lastEffect? i = some q ∧
      s.registry.get? q.key.text = q.stored? := by
  obtain ⟨q', hserved', heffect', -⟩ := hs.done i errand hdone
  have hne : (s.served i).filter TakesEffect ≠ [] :=
    List.ne_nil_of_mem (List.mem_filter.2 ⟨hserved', decide_eq_true heffect'⟩)
  obtain ⟨q, hlast⟩ := Option.isSome_iff_exists.1 (List.getLast?_isSome.2 hne)
  obtain ⟨hserved, heffect⟩ := List.mem_filter.1 (List.mem_of_getLast? hlast)
  have howns := owns_of_mem_sent (hs.onCourse i) (hs.mem_sent hserved)
  have hstored := hs.stored i q.key howns
  rw [Snapshot.lastEffect?, hlast] at hstored
  exact ⟨q, hserved, of_decide_eq_true heffect, hlast, hstored⟩

end Coherent

theorem exists_sent_of_running {r : Registrant} {lookup : Except ProxyError Labels} {run : Run}
    (hrun : run.OnCourse r lookup)
    (h : run.stage.state = .running ∨ run.stage = .stopped ∧ r.reload = true) :
    ∃ l n, lookup = .ok l ∧ run.sent = List.replicate n (r.registration l) ∧
      run.HasDone .register := by
  obtain ⟨registrant, stage, stop, entered, sent⟩ := run
  have hway := hrun.waypoint
  dsimp only at hway h
  cases hway with
  | running hlookup hn | reloaded hlookup hn => exact ⟨_, _, hlookup, rfl, by simp [Run.HasDone]⟩
  | waiting | searching | notFound | registering | unregistered | deregistering | unremoved =>
      simp [Stage.state, Errand.state] at h
  | stopped _ _ _ hreload => simp [Stage.state, hreload] at h

/-- Under the key of a member that runs, the registry holds what that member asked for. -/
theorem get?_of_running (hkeys : F.KeysDiffer) (hs : F.Reaches initial s) {i : ι}
    (hrunning : (s.runs i).stage.state = .running ∨
      (s.runs i).stage = .stopped ∧ (F i).registrant.reload = true) :
    ∃ l mode, (F i).lookup = .ok l ∧ ProxyMode.parse l.mode = .ok mode ∧
      s.registry.get? ((F i).registrant.registration l).key.text =
        some ((F i).registrant.endpoint l mode) := by
  have hcoherent := hs.coherent hkeys
  obtain ⟨l, n, hlookup, hsent, hdone⟩ := exists_sent_of_running (hcoherent.onCourse i) hrunning
  obtain ⟨q, hserved, heffect, -, hstored⟩ := hcoherent.exists_lastEffect? hdone
  obtain rfl : q = (F i).registrant.registration l := by
    have hq := hcoherent.mem_sent hserved
    rw [hsent] at hq
    exact List.eq_of_mem_replicate hq
  obtain ⟨mode, hmode, hendpoint⟩ := exists_stored?_registration heffect.2
  exact ⟨l, mode, hlookup, hmode, hstored.trans hendpoint⟩

/-! ## A trace -/

theorem Reaches.happens (hs : F.Reaches initial s) (i : ι) {h : Happening}
    (hh : h.Spontaneous (F i).lookup) : F.Reaches initial (s.happen i h) :=
  hs.tail (.happens hh)

theorem Reaches.arrives (hs : F.Reaches initial s) (i : ι) (number : Nat) {q : Request}
    (hsent : (s.runs i).sent[number]? = some q)
    (hnew : (i, number) ∉ s.read) :
    F.Reaches initial (s.serve i number q [Channel.requestLine q] .closed) :=
  hs.tail (.arrives hsent hnew List.flatten_singleton)

/-- A member hears of its success if its last request is read in time. -/
theorem Reaches.answers (hs : F.Reaches initial s) (i : ι) (number : Nat) {q : Request}
    (hsent : (s.runs i).sent[number]? = some q)
    (hnew : (i, number) ∉ s.read)
    (hlast : number + 1 = (s.runs i).sent.length) (heffect : TakesEffect q) :
    F.Reaches initial ((s.serve i number q [Channel.requestLine q] .closed).happen i
      (.answered (.ok .ok))) := by
  have harrived := hs.arrives i number hsent hnew
  have hread : (⟨i, number, q, (Connection.run Channel.standardMaxLine s.registry
      [Channel.requestLine q] .closed).sent⟩ : Arrival ι) ∈
        (s.serve i number q [Channel.requestLine q] .closed).arrivals :=
    List.mem_append_right _ (List.mem_singleton_self _)
  rw [← Channel.outcome_of_takesEffect List.flatten_singleton .closed s.registry heffect
    (F i).caller]
  exact harrived.tail (.hears hread hlast)

/-- Two members whose mappings differ in the port of their frontends. -/
def webPair : Fleet Bool := fun isSecond =>
  { registrant := { webRegistrant with
      frontend := .v4 ⟨127, 0, 0, 1⟩ (if isSecond then 32769 else 32768) }
    lookup := .ok webLabels
    caller := ⟨"/tmp/registry.sock", Channel.standardDeadline⟩ }

theorem keysDiffer_webPair : webPair.KeysDiffer := by
  rintro i j _ ⟨l, hl, rfl⟩ ⟨l', hl', hkey⟩
  cases hl
  cases hl'
  revert i j
  decide

theorem takesEffect_webPair (isSecond : Bool) :
    TakesEffect ((webPair isSecond).registrant.registration webLabels) := by
  unfold TakesEffect Channel.Fits
  revert isSecond
  decide +kernel

/-- The first member tries twice.  Its second request is read and answered after that of the other
member, and its first one comes in when both run. -/
theorem get?_of_running_webPair :
    ∃ s, webPair.Reaches .empty s ∧
      s.read = [(true, 0), (false, 1), (false, 0)] ∧
      (s.runs false).stage.state = .running ∧ (s.runs true).stage.state = .running ∧
      s.registry.get? "awesome-svc-dev-32768" =
        some ⟨.v4 ⟨127, 0, 0, 1⟩ 32768, .v4 ⟨172, 17, 0, 2⟩ 80, "awesome-svc", "dev", .http⟩ ∧
      s.registry.get? "awesome-svc-dev-32769" =
        some ⟨.v4 ⟨127, 0, 0, 1⟩ 32769, .v4 ⟨172, 17, 0, 2⟩ 80, "awesome-svc", "dev", .http⟩ := by
  have hstart : webPair.Reaches .empty (webPair.start .empty) := .refl
  have hbegun := (hstart.happens false (h := .graceOver) trivial).happens true
    (h := .graceOver) trivial
  have hfound := (hbegun.happens false (h := .found (.ok webLabels)) rfl).happens true
    (h := .found (.ok webLabels)) rfl
  have hlate := hfound.happens false (h := .answered (.error (.deadline 50000000))) trivial
  have hsecond := hlate.answers true 0 rfl (by decide) rfl (takesEffect_webPair true)
  have hfirst := hsecond.answers false 1 rfl (by decide) rfl (takesEffect_webPair false)
  have hagain := hfirst.arrives false 0 rfl (by decide)
  have hmode : ProxyMode.parse webLabels.mode = .ok .http := by decide
  refine ⟨_, hagain, rfl, rfl, rfl, ?_, ?_⟩
  · obtain ⟨l, mode, hl, hmode', hget⟩ :=
      get?_of_running keysDiffer_webPair hagain (i := false) (.inl rfl)
    cases hl
    cases hmode.symm.trans hmode'
    exact hget
  · obtain ⟨l, mode, hl, hmode', hget⟩ :=
      get?_of_running keysDiffer_webPair hagain (i := true) (.inl rfl)
    cases hl
    cases hmode.symm.trans hmode'
    exact hget

end Fleet

end MeshRegistry.Proxy
