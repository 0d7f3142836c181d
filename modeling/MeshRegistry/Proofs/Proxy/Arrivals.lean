import MeshRegistry.Proofs.Proxy.Fleet

/-!
# The order of arrivals

The requests of one registrant are read in any order, each once at most.  But it asks for its mapping
to be taken back only when it has heard that the mapping was taken in.  So the copy that it heard about
was read before every request to take the mapping back.
-/

namespace MeshRegistry.Proxy

/-! ## Requests that were given up on -/

namespace Run

/-- A request is given up on once the run has sent it again. -/
def GivenUp (run : Run) (number : Nat) : Prop :=
  ∃ q later, run.sent[number]? = some q ∧ number < later ∧ run.sent[later]? = some q

variable {run run' : Run} {h : Happening} {errand : Errand} {number : Nat}

theorem not_givenUp_of_last (hlast : number + 1 = run.sent.length) : ¬ run.GivenUp number := by
  rintro ⟨q, later, -, hlt, hlater⟩
  obtain ⟨hbound, -⟩ := List.getElem?_eq_some_iff.1 hlater
  omega

theorem not_givenUp_of_nodup (hsent : run.sent.Nodup) : ¬ run.GivenUp number := by
  rintro ⟨q, later, hq, hlt, hlater⟩
  obtain ⟨hnumber, rfl⟩ := List.getElem?_eq_some_iff.1 hq
  obtain ⟨hbound, hsame⟩ := List.getElem?_eq_some_iff.1 hlater
  have heq := (List.Nodup.getElem_inj_iff hsent).1 hsame
  omega

/-- Of two copies of one request the first was given up on. -/
theorem givenUp_or_givenUp {first second : Nat} {q : Request} (hne : first ≠ second)
    (hfirst : run.sent[first]? = some q) (hsecond : run.sent[second]? = some q) :
    run.GivenUp first ∨ run.GivenUp second := by
  rcases Nat.lt_or_gt_of_ne hne with hlt | hlt
  · exact .inl ⟨q, second, hfirst, hlt, hsecond⟩
  · exact .inr ⟨q, first, hsecond, hlt, hfirst⟩

theorem Move.sent_of_ok {reply : Reply} (hmove : run.Move (.answered (.ok reply)) run') :
    run'.sent = run.sent := by
  cases hmove <;> rfl

variable {r : Registrant} {lookup : Except ProxyError Labels}

/-- A run that has accomplished an errand does not call for it any more. -/
theorem OnCourse.not_calling (hrun : run.OnCourse r lookup) (hdone : run.HasDone errand)
    (q : Request) (n : Nat) : run.stage ≠ .calling errand q n := by
  obtain ⟨registrant, stage, stop, entered, sent⟩ := run
  rintro rfl
  have hway := hrun.waypoint
  dsimp only at hway
  cases hway with
  | registering => simp [HasDone] at hdone
  | deregistering => cases hdone.1

theorem OnCourse.not_searching (hrun : run.OnCourse r lookup) (hdone : run.HasDone errand) :
    run.stage ≠ .searching := by
  obtain ⟨registrant, stage, stop, entered, sent⟩ := run
  rintro rfl
  have hway := hrun.waypoint
  dsimp only at hway
  cases hway
  cases errand with
  | register => simp [HasDone] at hdone
  | deregister => cases hdone.1

/-- What a run sends once it has accomplished an errand is for another one. -/
theorem OnCourse.sent_of_hasDone (hrun : run.OnCourse r lookup) (hdone : run.HasDone errand)
    (hmove : run.Move h run') :
    ∃ more, run'.sent = run.sent ++ more ∧ ∀ q ∈ more, q.action ≠ errand.action := by
  cases hmove with
  | askedToStop | began | notFound | registered | reloaded | deregistered | gaveUp | ignored =>
      exact ⟨[], (List.append_nil _).symm, by simp⟩
  | found hstage => exact absurd hstage (hrun.not_searching hdone)
  | @triedAgain e errand' q n hstage hretry =>
      refine ⟨[q], rfl, ?_⟩
      rw [List.forall_mem_singleton, (hrun.getLast?_sent hstage).2]
      intro hsame
      have herrand : errand' = errand := by
        cases errand' <;> cases errand <;> first | rfl | cases hsame
      exact hrun.not_calling hdone q n (herrand ▸ hstage)
  | @closed q hstage hstop =>
      refine ⟨[q.withAction .deregister], rfl, ?_⟩
      rw [List.forall_mem_singleton]
      cases errand with
      | register => simp [Request.withAction, Errand.action]
      | deregister => cases hstage.symm.trans hdone.1

/-- A request for an errand that is accomplished is not given up on any more. -/
theorem OnCourse.not_givenUp_step (hrun : run.OnCourse r lookup) (hdone : run.HasDone errand)
    {q : Request} (hq : run.sent[number]? = some q) (haction : q.action = errand.action)
    (hnot : ¬ run.GivenUp number) (h : Happening) : ¬ (run.step h).GivenUp number := by
  obtain ⟨more, hsent, hmore⟩ := hrun.sent_of_hasDone hdone (run.move_step h)
  obtain ⟨hnumber, -⟩ := List.getElem?_eq_some_iff.1 hq
  rintro ⟨q', later, hq', hlt, hlater⟩
  rw [hsent] at hq' hlater
  rw [List.getElem?_append_left hnumber, hq] at hq'
  cases hq'
  by_cases hbound : later < run.sent.length
  · rw [List.getElem?_append_left hbound] at hlater
    exact hnot ⟨q, later, hq, hlt, hlater⟩
  · rw [List.getElem?_append_right (Nat.le_of_not_lt hbound)] at hlater
    exact hmore q (List.mem_of_getElem? hlater) haction

/-- A mapping is taken back only once it was registered. -/
theorem OnCourse.hasDone_register (hrun : run.OnCourse r lookup) {q : Request} (hq : q ∈ run.sent)
    (haction : q.action = .deregister) : run.HasDone .register := by
  have hregisters : ∀ (l : Labels) (n : Nat), q ∉ List.replicate n (r.registration l) := by
    intro l n hmem
    rw [List.eq_of_mem_replicate hmem] at haction
    cases haction
  obtain ⟨registrant, stage, stop, entered, sent⟩ := run
  have hway := hrun.waypoint
  dsimp only at hway hq
  cases hway with
  | waiting | searching | notFound => cases hq
  | registering | unregistered => exact absurd hq (hregisters _ _)
  | running | reloaded | deregistering | unremoved | stopped => simp [HasDone]

end Run

/-! ## The arrivals of one member -/

variable {ι : Type} [DecidableEq ι]

namespace Snapshot

/-- The arrivals of one member, in the order in which they were read. -/
def arrivalsOf (s : Snapshot ι) (i : ι) : List (Arrival ι) :=
  s.arrivals.filter (·.owner = i)

variable (s : Snapshot ι)

theorem served_eq (i : ι) : s.served i = (s.arrivalsOf i).map Arrival.request :=
  rfl

theorem exists_of_getLast?_served {i : ι} {q : Request} (h : (s.served i).getLast? = some q) :
    ∃ front a, s.arrivalsOf i = front ++ [a] ∧ a.request = q := by
  rw [served_eq, List.getLast?_map, Option.map_eq_some_iff] at h
  obtain ⟨a, hlast, rfl⟩ := h
  obtain ⟨front, hfront⟩ := List.getLast?_eq_some_iff.1 hlast
  exact ⟨front, a, hfront, rfl⟩

theorem mem_arrivalsOf {i : ι} {a : Arrival ι} :
    a ∈ s.arrivalsOf i ↔ a ∈ s.arrivals ∧ a.owner = i := by
  simp [arrivalsOf]

theorem arrivalsOf_serve (i : ι) (number : Nat) (q : Request) (chunks : List Text.Bytes)
    (ending : Channel.Ending) (j : ι) :
    (s.serve i number q chunks ending).arrivalsOf j =
      if i = j then s.arrivalsOf j ++ [⟨i, number, q, (Channel.Connection.run
        Channel.standardMaxLine s.registry chunks ending).sent⟩] else s.arrivalsOf j := by
  simp only [arrivalsOf, serve, List.filter_append]
  by_cases hij : i = j <;> simp [hij]

theorem runs_happen (i : ι) (h : Happening) : (s.happen i h).runs i = (s.runs i).step h :=
  Function.update_self ..

theorem runs_happen_of_ne {i j : ι} (hne : j ≠ i) (h : Happening) :
    (s.happen i h).runs j = s.runs j :=
  Function.update_of_ne hne ..

theorem arrivalsOf_happen (i : ι) (h : Happening) (j : ι) :
    (s.happen i h).arrivalsOf j = s.arrivalsOf j :=
  rfl

end Snapshot

namespace Fleet

variable {F : Fleet ι} {initial : Registry} {s s' : Snapshot ι}

/-- What was read of a member is what it has sent. -/
theorem Coherent.sent_of_mem (hs : F.Coherent initial s) {i : ι} {a : Arrival ι}
    (ha : a ∈ s.arrivalsOf i) : (s.runs i).sent[a.number]? = some a.request := by
  obtain ⟨harrived, rfl⟩ := s.mem_arrivalsOf.1 ha
  exact hs.sent a harrived

/-- The order of arrivals: no request is read twice, a member that has accomplished an errand has had
a request for it read that it did not give up on, and one such request to register was read before
each request to take the mapping back. -/
structure Ordered (s : Snapshot ι) : Prop where
  read_nodup : s.read.Nodup
  heard : ∀ i errand, (s.runs i).HasDone errand →
    ∃ a ∈ s.arrivalsOf i, a.request.action = errand.action ∧ ¬ (s.runs i).GivenUp a.number
  registered_first : ∀ i front a, front ++ [a] <+: s.arrivalsOf i → a.request.action = .deregister →
    ∃ b ∈ front, b.request.action = .register ∧ ¬ (s.runs i).GivenUp b.number

theorem ordered_start (F : Fleet ι) (initial : Registry) : Ordered (F.start initial) where
  read_nodup := List.nodup_nil
  heard i errand hdone := by
    cases errand with
    | register => simp [Run.HasDone, start, Run.start] at hdone
    | deregister => cases hdone.1
  registered_first i front a hfront _ := by
    have hnil := List.prefix_nil.1 hfront
    simp at hnil

namespace Ordered

/-- A happening keeps the order if, where it is the success of a call, the request of that call was
read. -/
theorem happen (ho : Ordered s) (hs : F.Coherent initial s) {i : ι} {h : Happening}
    (hheard : ∀ reply errand q n, h = .answered (.ok reply) →
      (s.runs i).stage = .calling errand q n →
        ∃ a ∈ s.arrivalsOf i, a.request.action = errand.action ∧
          a.number + 1 = (s.runs i).sent.length) : Ordered (s.happen i h) where
  read_nodup := ho.read_nodup
  heard j errand hdone := by
    rw [Snapshot.arrivalsOf_happen]
    rcases eq_or_ne j i with rfl | hne
    · rw [Snapshot.runs_happen] at hdone ⊢
      by_cases hbefore : (s.runs j).HasDone errand
      · obtain ⟨a, ha, haction, hnot⟩ := ho.heard j errand hbefore
        have hsent := hs.sent_of_mem ha
        exact ⟨a, ha, haction, (hs.onCourse j).not_givenUp_step hbefore hsent haction hnot h⟩
      · have hmove := (s.runs j).move_step h
        obtain ⟨⟨reply, rfl⟩, q, n, hstage⟩ := hmove.calling_of_hasDone hbefore hdone
        obtain ⟨a, ha, haction, hlast⟩ := hheard reply errand q n rfl hstage
        refine ⟨a, ha, haction, Run.not_givenUp_of_last ?_⟩
        rw [hmove.sent_of_ok]
        exact hlast
    · rw [s.runs_happen_of_ne hne] at hdone ⊢
      exact ho.heard j errand hdone
  registered_first j front a hfront haction := by
    rw [Snapshot.arrivalsOf_happen] at hfront
    obtain ⟨b, hb, hregister, hnot⟩ := ho.registered_first j front a hfront haction
    refine ⟨b, hb, hregister, ?_⟩
    rcases eq_or_ne j i with rfl | hne
    · rw [Snapshot.runs_happen]
      have ha := hfront.subset (List.mem_append_right front (List.mem_singleton_self a))
      have hb' := hfront.subset (List.mem_append_left [a] hb)
      have hdone := (hs.onCourse j).hasDone_register
        (List.mem_of_getElem? (hs.sent_of_mem ha)) haction
      exact (hs.onCourse j).not_givenUp_step hdone (hs.sent_of_mem hb') hregister hnot h
    · rwa [s.runs_happen_of_ne hne]

theorem serve (ho : Ordered s) (hs : F.Coherent initial s) {i : ι} {number : Nat} {q : Request}
    (hsent : (s.runs i).sent[number]? = some q) (hnew : (i, number) ∉ s.read)
    (chunks : List Text.Bytes) (ending : Channel.Ending) :
    Ordered (s.serve i number q chunks ending) where
  read_nodup := by
    rw [Snapshot.read_serve, ← List.concat_eq_append]
    exact ho.read_nodup.concat hnew
  heard j errand hdone := by
    obtain ⟨a, ha, hheard⟩ := ho.heard j errand hdone
    refine ⟨a, ?_, hheard⟩
    rw [Snapshot.arrivalsOf_serve]
    split
    · exact List.mem_append_left _ ha
    · exact ha
  registered_first j front a hfront haction := by
    rw [Snapshot.arrivalsOf_serve] at hfront
    split at hfront
    next hij =>
      subst hij
      rcases List.prefix_concat_iff.1 hfront with hnow | hbefore
      · -- The request that is read now comes behind all that were read.
        obtain ⟨rfl, hlast⟩ := List.append_inj' hnow rfl
        cases hlast
        exact ho.heard i .register
          ((hs.onCourse i).hasDone_register (List.mem_of_getElem? hsent) haction)
      · exact ho.registered_first i front a hbefore haction
    next => exact ho.registered_first j front a hfront haction

theorem step (ho : Ordered s) (hs : F.Coherent initial s) (hstep : F.Step s s') : Ordered s' := by
  cases hstep with
  | happens hh =>
      refine ho.happen hs ?_
      rintro reply errand q n rfl
      exact hh.elim
  | arrives hsent hnew => exact ho.serve hs hsent hnew _ _
  | @hears a ha hlast =>
      refine ho.happen hs ?_
      intro reply errand q n _ hstage
      obtain ⟨hq, haction⟩ := (hs.onCourse a.owner).getLast?_sent hstage
      have hmem : a ∈ s.arrivalsOf a.owner := s.mem_arrivalsOf.2 ⟨ha, rfl⟩
      refine ⟨a, hmem, ?_, hlast⟩
      rw [List.getLast?_eq_getElem?, ← hlast, Nat.add_sub_cancel, hs.sent_of_mem hmem] at hq
      rw [Option.some.inj hq, haction]
  | other => exact ⟨ho.read_nodup, ho.heard, ho.registered_first⟩

end Ordered

theorem Reaches.ordered (hkeys : F.KeysDiffer) (hs : F.Reaches initial s) : Ordered s := by
  induction hs with
  | refl => exact ordered_start F initial
  | tail hreached hstep ih => exact ih.step (Reaches.coherent hkeys hreached) hstep

end Fleet

end MeshRegistry.Proxy
