import MeshRegistry.Proofs.Proxy.Arrivals

/-!
# What a shutdown leaves behind

A registrant that was stopped has heard that its mapping was taken back.  A copy of the request to
register that it gave up on may come in afterwards, since connections are served in no order.  So the
mapping is gone as long as the request that was read last is one to deregister.  It is back only when
such a copy was read last, behind the request that took it back.
-/

namespace MeshRegistry.Proxy

/-- The order in which the two requests of a member were read that has heard of its success with both:
no copy twice, the last copy of the one to register before every copy of the other, and the last copy
of that one too. -/
structure Snapshot.ReadInOrder {ι : Type} [DecidableEq ι] (s : Snapshot ι) (i : ι)
    (registration removal : Request) : Prop where
  numbers_nodup : ((s.arrivalsOf i).map Arrival.number).Nodup
  registered_first : ∀ front a, front ++ [a] <+: s.arrivalsOf i → a.request = removal →
    ∃ b ∈ front, b.request = registration ∧ ¬ (s.runs i).GivenUp b.number
  removed : ∃ a ∈ s.arrivalsOf i, a.request = removal ∧ ¬ (s.runs i).GivenUp a.number

namespace Fleet

open Channel (TakesEffect)

/-! ## A registrant that was stopped -/

theorem exists_labels_of_stopped {r : Registrant} {lookup : Except ProxyError Labels} {run : Run}
    (hrun : run.OnCourse r lookup) (hstopped : run.stage = .stopped) (hreload : r.reload = false) :
    ∃ l, lookup = .ok l ∧ ∀ errand, run.HasDone errand := by
  obtain ⟨registrant, stage, stop, entered, sent⟩ := run
  obtain ⟨hr, hway⟩ := hrun
  dsimp only at hr hway hstopped
  subst hr
  subst hstopped
  cases hway with
  | reloaded _ _ hreload' => cases hreload.symm.trans hreload'
  | stopped hlookup =>
      refine ⟨_, hlookup, fun errand => ?_⟩
      cases errand with
      | register => simp [Run.HasDone]
      | deregister => exact ⟨rfl, hreload⟩

variable {ι : Type} [DecidableEq ι] {F : Fleet ι} {initial : Registry} {s : Snapshot ι} {i : ι}

/-- Both requests of a registrant take effect if it has accomplished both errands. -/
theorem Coherent.takesEffect_of_done (hs : F.Coherent initial s) {l : Labels}
    (hl : (F i).lookup = .ok l) (hdone : ∀ errand, (s.runs i).HasDone errand) :
    TakesEffect ((F i).registrant.registration l) ∧ TakesEffect ((F i).registrant.removal l) := by
  constructor
  · obtain ⟨q, hq, heffect, haction⟩ := hs.done i .register (hdone .register)
    rcases hs.registration_or_removal hl hq with rfl | rfl
    · exact heffect
    · cases haction
  · obtain ⟨q, hq, heffect, haction⟩ := hs.done i .deregister (hdone .deregister)
    rcases hs.registration_or_removal hl hq with rfl | rfl
    · cases haction
    · exact heffect

theorem Ordered.numbers_nodup (ho : Ordered s) (i : ι) :
    ((s.arrivalsOf i).map Arrival.number).Nodup := by
  have hread : ((s.arrivalsOf i).map fun a => (a.owner, a.number)).Nodup :=
    ho.read_nodup.sublist (List.filter_sublist.map _)
  have hpairs : (s.arrivalsOf i).map (fun a => (a.owner, a.number)) =
      ((s.arrivalsOf i).map Arrival.number).map (i, ·) := by
    rw [List.map_map]
    refine List.map_congr_left fun a ha => ?_
    rw [(s.mem_arrivalsOf.1 ha).2]
    rfl
  rw [hpairs] at hread
  exact hread.of_map _

theorem Ordered.readInOrder (ho : Ordered s) (hs : F.Coherent initial s) {l : Labels}
    (hl : (F i).lookup = .ok l) (hdone : ∀ errand, (s.runs i).HasDone errand) :
    s.ReadInOrder i ((F i).registrant.registration l) ((F i).registrant.removal l) := by
  have hrequest : ∀ a ∈ s.arrivalsOf i, ∀ errand : Errand, a.request.action = errand.action →
      a.request = ((F i).registrant.request l).withAction errand.action := by
    intro a ha errand haction
    rcases hs.registration_or_removal hl (List.mem_map_of_mem ha) with heq | heq
    all_goals
      rw [heq] at haction ⊢
      rw [← haction]
      rfl
  refine ⟨ho.numbers_nodup i, ?_, ?_⟩
  · intro front a hfront hremoval
    have haction : a.request.action = .deregister := congrArg Request.action hremoval
    obtain ⟨b, hb, hregister, hnot⟩ := ho.registered_first i front a hfront haction
    have hmem := hfront.subset (List.mem_append_left [a] hb)
    exact ⟨b, hb, hrequest b hmem .register hregister, hnot⟩
  · obtain ⟨a, ha, hderegister, hnot⟩ := ho.heard i .deregister (hdone .deregister)
    exact ⟨a, ha, hrequest a ha .deregister hderegister, hnot⟩

/-- A copy to register that was read last was given up on, and the copy that took the mapping back was
read before it. -/
theorem Coherent.givenUp_of_last (hs : F.Coherent initial s) {registration removal : Request}
    (hne : registration ≠ removal) (horder : s.ReadInOrder i registration removal)
    {front : List (Arrival ι)} {a : Arrival ι} (hlast : s.arrivalsOf i = front ++ [a])
    (ha : a.request = registration) :
    (s.runs i).GivenUp a.number ∧
      ∃ b ∈ front, b.request = removal ∧ ¬ (s.runs i).GivenUp b.number := by
  have hsent := fun c hc => hs.sent_of_mem (i := i) (a := c) (hlast ▸ hc)
  obtain ⟨b, hb, hremoval, hnot⟩ := horder.removed
  have hfront : b ∈ front := by
    rw [hlast, List.mem_append, List.mem_singleton] at hb
    refine hb.resolve_right ?_
    rintro rfl
    exact hne (ha.symm.trans hremoval)
  refine ⟨?_, b, hfront, hremoval, hnot⟩
  obtain ⟨before, after, rfl⟩ := List.append_of_mem hfront
  have hprefix : before ++ [b] <+: s.arrivalsOf i := by
    rw [hlast]
    exact ⟨after ++ [a], by simp⟩
  -- The copy that was taken in came before the one that took the mapping back, so it is not `a`.
  obtain ⟨c, hc, hregistration, hkept⟩ := horder.registered_first before b hprefix hremoval
  have hnumber : a.number ≠ c.number := by
    have hnodup := horder.numbers_nodup
    rw [hlast, List.map_append, List.nodup_append] at hnodup
    exact (hnodup.2.2 c.number (List.mem_map_of_mem (List.mem_append_left _ hc)) a.number
      (by simp)).symm
  have hsenta := hsent a (by simp)
  have hsentc := hsent c (by simp [hc])
  rw [ha] at hsenta
  rw [hregistration] at hsentc
  exact (Run.givenUp_or_givenUp hnumber hsenta hsentc).resolve_right hkept

/-- Once the run of a registrant has ended well, there is nothing under its key if the request of its
own that was read last is one to deregister.  If it is one to register, the mapping is there; then it
is a copy that was given up on, and came in behind the request that took the mapping back.  So nothing
is left when no request was sent twice. -/
theorem get?_of_stopped (hkeys : F.KeysDiffer) (hs : F.Reaches initial s)
    (hover : (s.runs i).IsOver) (hok : (s.runs i).result = .ok ())
    (hreload : (F i).registrant.reload = false) :
    ∃ l mode, (F i).lookup = .ok l ∧ ProxyMode.parse l.mode = .ok mode ∧
      s.ReadInOrder i ((F i).registrant.registration l) ((F i).registrant.removal l) ∧
      ((s.served i).getLast? = some ((F i).registrant.removal l) ∧
          s.registry.get? ((F i).registrant.registration l).key.text = none ∨
        (s.served i).getLast? = some ((F i).registrant.registration l) ∧
          s.registry.get? ((F i).registrant.registration l).key.text =
            some ((F i).registrant.endpoint l mode) ∧
          ∃ front a, s.arrivalsOf i = front ++ [a] ∧ (s.runs i).GivenUp a.number ∧
            ∃ b ∈ front, b.request = (F i).registrant.removal l ∧
              ¬ (s.runs i).GivenUp b.number) ∧
      ((s.runs i).sent.Nodup →
        s.registry.get? ((F i).registrant.registration l).key.text = none) := by
  have hcoherent := hs.coherent hkeys
  have hstopped := (Run.isOver_and_ok_iff _).1 ⟨hover, hok⟩
  obtain ⟨l, hl, hdone⟩ := exists_labels_of_stopped (hcoherent.onCourse i) hstopped hreload
  obtain ⟨hregister, hderegister⟩ := hcoherent.takesEffect_of_done hl hdone
  have horder := (hs.ordered hkeys).readInOrder hcoherent hl hdone
  have heffects : (s.served i).filter TakesEffect = s.served i := by
    refine List.filter_eq_self.2 fun q hq => decide_eq_true ?_
    rcases hcoherent.registration_or_removal hl hq with rfl | rfl
    · exact hregister
    · exact hderegister
  obtain ⟨mode, hmode, hendpoint⟩ := exists_stored?_registration hregister.2
  obtain ⟨q, hserved, -, hlast, hstored⟩ := hcoherent.exists_lastEffect? (hdone .register)
  rw [Snapshot.lastEffect?, heffects] at hlast
  refine ⟨l, mode, hl, hmode, horder, ?_⟩
  rcases hcoherent.registration_or_removal hl hserved with rfl | rfl
  · obtain ⟨front, a, harrivals, ha⟩ := s.exists_of_getLast?_served hlast
    have hgivenUp := hcoherent.givenUp_of_last (fun heq => by cases congrArg Request.action heq)
      horder harrivals ha
    refine ⟨.inr ⟨hlast, hstored.trans hendpoint, front, a, harrivals, hgivenUp⟩, ?_⟩
    exact fun hnodup => absurd hgivenUp.1 (Run.not_givenUp_of_nodup hnodup)
  · exact ⟨.inl ⟨hlast, hstored⟩, fun _ => hstored⟩

/-! ## A late copy -/

/-- A fleet of one. -/
def lone : Fleet Unit := fun _ => webPair false

theorem keysDiffer_lone : lone.KeysDiffer :=
  fun _ _ _ _ _ => rfl

theorem takesEffect_lone :
    TakesEffect ((lone ()).registrant.registration webLabels) ∧
      TakesEffect ((lone ()).registrant.removal webLabels) := by
  unfold TakesEffect Channel.Fits
  decide +kernel

/-- The registrant gives its first attempt up and is stopped after the second one, while the request
of the first is still on its way. -/
theorem exists_stopped_lone : ∃ s, lone.Reaches .empty s ∧ (s.runs ()).stage = .stopped ∧
    (s.runs ()).sent = [(lone ()).registrant.registration webLabels,
      (lone ()).registrant.registration webLabels, (lone ()).registrant.removal webLabels] ∧
    s.read = [((), 1), ((), 2)] ∧
    (s.served ()).getLast? = some ((lone ()).registrant.removal webLabels) := by
  have hstart : lone.Reaches .empty (lone.start .empty) := .refl
  have hfound := (hstart.happens () (h := .graceOver) trivial).happens ()
    (h := .found (.ok webLabels)) rfl
  have hagain := hfound.happens () (h := .answered (.error (.deadline 50000000))) trivial
  have hrunning := hagain.answers () 1 rfl (by decide) rfl takesEffect_lone.1
  have hclosed := (hrunning.happens () (h := .stopRequested) trivial).happens ()
    (h := .stopNoticed) trivial
  have hstopped := hclosed.answers () 2 rfl (by decide) rfl takesEffect_lone.2
  exact ⟨_, hstopped, rfl, rfl, rfl, rfl⟩

theorem get?_of_stopped_lone : ∃ s, lone.Reaches .empty s ∧ (s.runs ()).stage = .stopped ∧
    s.registry.get? "awesome-svc-dev-32768" = none := by
  obtain ⟨s, hs, hstopped, -, -, hlast⟩ := exists_stopped_lone
  obtain ⟨hover, hok⟩ := (Run.isOver_and_ok_iff _).2 hstopped
  obtain ⟨l, mode, hl, -, -, ⟨-, hnone⟩ | ⟨hlast', -⟩, -⟩ :=
    get?_of_stopped keysDiffer_lone hs hover hok rfl
  · cases hl
    exact ⟨s, hs, hstopped, hnone⟩
  · cases hl
    cases hlast.symm.trans hlast'

/-- The request of the first attempt comes in last, and the mapping is back for good. -/
theorem exists_stale_lone : ∃ s, lone.Reaches .empty s ∧ (s.runs ()).IsOver ∧
    (s.runs ()).result = .ok () ∧ (lone ()).registrant.reload = false ∧ s.Settled ∧
    s.registry.get? "awesome-svc-dev-32768" =
      some ⟨.v4 ⟨127, 0, 0, 1⟩ 32768, .v4 ⟨172, 17, 0, 2⟩ 80, "awesome-svc", "dev", .http⟩ := by
  obtain ⟨s, hs, hstopped, hsent, hread, -⟩ := exists_stopped_lone
  obtain ⟨hover, hok⟩ := (Run.isOver_and_ok_iff _).2 hstopped
  have hlate := hs.arrives () 0 (by rw [hsent]; rfl) (by rw [hread]; decide)
  refine ⟨_, hlate, hover, hok, rfl, ?_, ?_⟩
  · rintro ⟨⟩
    have hlength : ((s.serve () 0 ((lone ()).registrant.registration webLabels)
        [Channel.requestLine ((lone ()).registrant.registration webLabels)] .closed).runs ()).sent.length =
          3 := congrArg List.length hsent
    rw [hlength, Snapshot.read_serve, hread]
    decide
  · rw [Snapshot.serve]
    dsimp only
    rw [Channel.get?_run_requestLine List.flatten_singleton, if_pos ⟨takesEffect_lone.1, by decide⟩]
    rfl

end Fleet

end MeshRegistry.Proxy
