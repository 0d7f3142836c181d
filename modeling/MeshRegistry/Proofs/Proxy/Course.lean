import MeshRegistry.Proxy.Registrant

/-!
# The course of a run

Whatever happens to a registrant, and in whatever order, its run goes through its states in one
direction.  `Move` says once what a run can do, and `Waypoint` lists all the points that it can reach,
each with the states entered and the requests sent on the way.  Everything else is read off the list.
-/

namespace MeshRegistry.Proxy

/-! ## What one happening does -/

namespace Run

/-- What a run does when something happens to it, and when it does so. -/
inductive Move (run : Run) : Happening → Run → Prop where
  | askedToStop : run.Move .stopRequested { run with stopRequested := true }
  | began (hstage : run.stage = .waiting) : run.Move .graceOver (run.enter .searching)
  | notFound {e : ProxyError} (hstage : run.stage = .searching) :
      run.Move (.found (.error e)) { run with stage := .failed .register e }
  | found {l : Labels} (hstage : run.stage = .searching) :
      run.Move (.found (.ok l))
        (run.attempt .register ((run.registrant.request l).withAction .register) 1)
  | registered {reply : Reply} {q : Request} {n : Nat}
      (hstage : run.stage = .calling .register q n) (hreload : run.registrant.reload = false) :
      run.Move (.answered (.ok reply)) (run.enter (.running q))
  | reloaded {reply : Reply} {q : Request} {n : Nat}
      (hstage : run.stage = .calling .register q n) (hreload : run.registrant.reload = true) :
      run.Move (.answered (.ok reply)) ((run.enter (.running q)).enter .stopped)
  | deregistered {reply : Reply} {q : Request} {n : Nat}
      (hstage : run.stage = .calling .deregister q n) :
      run.Move (.answered (.ok reply)) (run.enter .stopped)
  | triedAgain {e : Channel.CallError} {errand : Errand} {q : Request} {n : Nat}
      (hstage : run.stage = .calling errand q n)
      (hretry : run.registrant.policy.shouldRetry n e.isRetryable = true) :
      run.Move (.answered (.error e)) (run.attempt errand q (n + 1))
  | gaveUp {e : Channel.CallError} {errand : Errand} {q : Request} {n : Nat}
      (hstage : run.stage = .calling errand q n)
      (hretry : run.registrant.policy.shouldRetry n e.isRetryable = false) :
      run.Move (.answered (.error e)) { run with stage := .failed errand (.registration e) }
  | closed {q : Request} (hstage : run.stage = .running q) (hstop : run.stopRequested = true) :
      run.Move .stopNoticed (run.close q)
  | ignored {h : Happening} : run.Move h run

theorem move_answered (run : Run) (outcome : Except Channel.CallError Reply) :
    run.Move (.answered outcome) (run.step (.answered outcome)) := by
  cases hstage : run.stage with
  | calling errand q n =>
      cases outcome with
      | ok reply =>
          cases errand with
          | register =>
              cases hreload : run.registrant.reload with
              | true =>
                  have hmove : run.Move (.answered (.ok reply)) _ := .reloaded hstage hreload
                  simpa [step, hstage, accomplished, enter, hreload] using hmove
              | false =>
                  have hmove : run.Move (.answered (.ok reply)) _ := .registered hstage hreload
                  simpa [step, hstage, accomplished, enter, hreload] using hmove
          | deregister =>
              have hmove : run.Move (.answered (.ok reply)) _ := .deregistered hstage
              simpa [step, hstage, accomplished] using hmove
      | error e =>
          cases hretry : run.registrant.policy.shouldRetry n e.isRetryable with
          | true => simpa [step, hstage, hretry] using Move.triedAgain hstage hretry
          | false => simpa [step, hstage, hretry] using Move.gaveUp hstage hretry
  | waiting | searching | running | stopped | failed =>
      cases outcome <;> simpa [step, hstage] using Move.ignored

/-- A step of a run is one of its moves. -/
theorem move_step (run : Run) (h : Happening) : run.Move h (run.step h) := by
  cases h with
  | answered outcome => exact run.move_answered outcome
  | stopRequested => simpa [step] using Move.askedToStop
  | graceOver =>
      cases hstage : run.stage with
      | waiting => simpa [step, hstage] using Move.began hstage
      | searching | calling | running | stopped | failed =>
          simpa [step, hstage] using Move.ignored
  | found lookup =>
      cases hstage : run.stage with
      | searching =>
          cases lookup with
          | ok l => simpa [step, hstage] using Move.found hstage
          | error e => simpa [step, hstage] using Move.notFound hstage
      | waiting | calling | running | stopped | failed =>
          cases lookup <;> simpa [step, hstage] using Move.ignored
  | stopNoticed =>
      cases hstage : run.stage with
      | running q =>
          cases hstop : run.stopRequested with
          | true => simpa [step, hstage, hstop] using Move.closed hstage hstop
          | false => simpa [step, hstage, hstop] using Move.ignored
      | waiting | searching | calling | stopped | failed =>
          simpa [step, hstage] using Move.ignored

/-- A move takes back nothing that was sent. -/
theorem Move.sent_isPrefix {run run' : Run} {h : Happening} (hmove : run.Move h run') :
    run.sent <+: run'.sent := by
  cases hmove with
  | found | triedAgain | closed => exact List.prefix_append _ _
  | askedToStop | began | notFound | registered | reloaded | deregistered | gaveUp | ignored =>
      exact List.prefix_rfl

/-- An errand is accomplished: the run has come to run, or has stopped after it. -/
def HasDone (run : Run) : Errand → Prop
  | .register => State.running ∈ run.entered
  | .deregister => run.stage = .stopped ∧ run.registrant.reload = false

/-- No errand is accomplished but by an answer that reports success. -/
theorem Move.calling_of_hasDone {run run' : Run} {h : Happening} (hmove : run.Move h run')
    {errand : Errand} (hnot : ¬ run.HasDone errand) (hdone : run'.HasDone errand) :
    (∃ reply, h = .answered (.ok reply)) ∧ ∃ q n, run.stage = .calling errand q n := by
  cases errand with
  | register =>
      cases hmove with
      | registered hstage | reloaded hstage => exact ⟨⟨_, rfl⟩, _, _, hstage⟩
      | began | deregistered | closed =>
          refine absurd ?_ hnot
          simpa [HasDone, enter, close, attempt, Stage.state, Errand.state] using hdone
      | askedToStop | triedAgain | gaveUp | notFound | found | ignored => exact absurd hdone hnot
  | deregister =>
      cases hmove with
      | deregistered hstage => exact ⟨⟨_, rfl⟩, _, _, hstage⟩
      | reloaded hstage hreload => exact absurd hdone.2 (by simp [enter, hreload])
      | askedToStop | ignored => exact absurd hdone hnot
      | began | registered | closed | triedAgain | gaveUp | notFound | found => cases hdone.1

end Run

/-! ## Where a run can stand -/

/-- The request by which a registrant registers what its search found. -/
def Registrant.registration (r : Registrant) (l : Labels) : Request :=
  (r.request l).withAction .register

/-- The same request but for its action, which takes the mapping back. -/
def Registrant.removal (r : Registrant) (l : Labels) : Request :=
  (r.request l).withAction .deregister

/-- So many attempts are at least one and no more than the policy has. -/
def Registrant.Allows (r : Registrant) (n : Nat) : Prop :=
  1 ≤ n ∧ n ≤ r.policy.maxAttempts

open List in
/-- Where the run of a registrant can stand if its search comes to `lookup`: the stage it is at, the
states that it has entered so far, and the requests that it has sent. -/
inductive Waypoint (r : Registrant) (lookup : Except ProxyError Labels) :
    Stage → List State → List Request → Prop where
  | waiting : Waypoint r lookup .waiting [.starting] []
  | searching : Waypoint r lookup .searching [.starting, .registering] []
  | notFound {e : ProxyError} (hlookup : lookup = .error e) :
      Waypoint r lookup (.failed .register e) [.starting, .registering] []
  | registering {l : Labels} {n : Nat} (hlookup : lookup = .ok l) (hn : r.Allows n) :
      Waypoint r lookup (.calling .register (r.registration l) n) [.starting, .registering]
        (replicate n (r.registration l))
  | unregistered {l : Labels} {n : Nat} {c : Channel.CallError} (hlookup : lookup = .ok l)
      (hn : r.Allows n) :
      Waypoint r lookup (.failed .register (.registration c)) [.starting, .registering]
        (replicate n (r.registration l))
  | running {l : Labels} {n : Nat} (hlookup : lookup = .ok l) (hn : r.Allows n)
      (hreload : r.reload = false) :
      Waypoint r lookup (.running (r.registration l)) [.starting, .registering, .running]
        (replicate n (r.registration l))
  | reloaded {l : Labels} {n : Nat} (hlookup : lookup = .ok l) (hn : r.Allows n)
      (hreload : r.reload = true) :
      Waypoint r lookup .stopped [.starting, .registering, .running, .stopped]
        (replicate n (r.registration l))
  | deregistering {l : Labels} {m n : Nat} (hlookup : lookup = .ok l) (hm : r.Allows m)
      (hn : r.Allows n) (hreload : r.reload = false) :
      Waypoint r lookup (.calling .deregister (r.removal l) n)
        [.starting, .registering, .running, .deregistering]
        (replicate m (r.registration l) ++ replicate n (r.removal l))
  | unremoved {l : Labels} {m n : Nat} {c : Channel.CallError} (hlookup : lookup = .ok l)
      (hm : r.Allows m) (hn : r.Allows n) (hreload : r.reload = false) :
      Waypoint r lookup (.failed .deregister (.registration c))
        [.starting, .registering, .running, .deregistering]
        (replicate m (r.registration l) ++ replicate n (r.removal l))
  | stopped {l : Labels} {m n : Nat} (hlookup : lookup = .ok l) (hm : r.Allows m)
      (hn : r.Allows n) (hreload : r.reload = false) :
      Waypoint r lookup .stopped [.starting, .registering, .running, .deregistering, .stopped]
        (replicate m (r.registration l) ++ replicate n (r.removal l))

/-- The search for a container comes to `lookup` or is not what happens. -/
def Happening.Agrees (lookup : Except ProxyError Labels) (h : Happening) : Prop :=
  ∀ outcome, h = .found outcome → outcome = lookup

theorem agrees_answered (lookup : Except ProxyError Labels)
    (outcome : Except Channel.CallError Reply) : (Happening.answered outcome).Agrees lookup := by
  intro found h
  cases h

theorem agrees_stopNoticed (lookup : Except ProxyError Labels) :
    Happening.stopNoticed.Agrees lookup := by
  intro found h
  cases h

namespace Run

/-- A run of a registrant that stands where it can stand. -/
structure OnCourse (r : Registrant) (lookup : Except ProxyError Labels) (run : Run) : Prop where
  registrant_eq : run.registrant = r
  waypoint : Waypoint r lookup run.stage run.entered run.sent

variable {r : Registrant} {lookup : Except ProxyError Labels} {run : Run}

theorem onCourse_start (r : Registrant) (lookup : Except ProxyError Labels) :
    (start r).OnCourse r lookup :=
  ⟨rfl, .waiting⟩

theorem allows_one (r : Registrant) : r.Allows 1 :=
  ⟨Nat.le_refl 1, Nat.le_max_right ..⟩

theorem allows_succ {n : Nat} {e : Channel.CallError}
    (h : r.policy.shouldRetry n e.isRetryable = true) : r.Allows (n + 1) := by
  simp only [RetryPolicy.shouldRetry, Bool.and_eq_true, decide_eq_true_eq] at h
  exact ⟨Nat.le_add_left 1 n, h.1⟩

/-- A move leads from one point of the course to another. -/
theorem OnCourse.move (hrun : run.OnCourse r lookup) {h : Happening} (hagrees : h.Agrees lookup)
    {run' : Run} (hmove : run.Move h run') : run'.OnCourse r lookup := by
  obtain ⟨registrant, stage, stop, entered, sent⟩ := run
  obtain ⟨hr, hway⟩ := hrun
  dsimp only at hr hway
  subst hr
  cases hmove with
  | askedToStop => exact ⟨rfl, hway⟩
  | ignored => exact ⟨rfl, hway⟩
  | began hstage =>
      cases hstage
      cases hway
      exact ⟨rfl, .searching⟩
  | notFound hstage =>
      cases hstage
      cases hway
      exact ⟨rfl, .notFound (hagrees _ rfl).symm⟩
  | found hstage =>
      cases hstage
      cases hway
      exact ⟨rfl, .registering (hagrees _ rfl).symm (allows_one _)⟩
  | registered hstage hreload =>
      cases hstage
      cases hway with
      | registering hlookup hn => exact ⟨rfl, .running hlookup hn hreload⟩
  | reloaded hstage hreload =>
      cases hstage
      cases hway with
      | registering hlookup hn => exact ⟨rfl, .reloaded hlookup hn hreload⟩
  | deregistered hstage =>
      cases hstage
      cases hway with
      | deregistering hlookup hm hn hreload => exact ⟨rfl, .stopped hlookup hm hn hreload⟩
  | triedAgain hstage hretry =>
      cases hstage
      cases hway with
      | registering hlookup hn =>
          refine ⟨rfl, ?_⟩
          rw [attempt, ← List.replicate_succ']
          exact .registering hlookup (allows_succ hretry)
      | deregistering hlookup hm hn hreload =>
          refine ⟨rfl, ?_⟩
          rw [attempt, List.append_assoc, ← List.replicate_succ']
          exact .deregistering hlookup hm (allows_succ hretry) hreload
  | gaveUp hstage =>
      cases hstage
      cases hway with
      | registering hlookup hn => exact ⟨rfl, .unregistered hlookup hn⟩
      | deregistering hlookup hm hn hreload => exact ⟨rfl, .unremoved hlookup hm hn hreload⟩
  | closed hstage =>
      cases hstage
      cases hway with
      | running hlookup hn hreload =>
          exact ⟨rfl, .deregistering hlookup hn (allows_one _) hreload⟩

theorem OnCourse.step (hrun : run.OnCourse r lookup) {h : Happening} (hagrees : h.Agrees lookup) :
    (run.step h).OnCourse r lookup :=
  hrun.move hagrees (run.move_step h)

theorem OnCourse.foldl (hrun : run.OnCourse r lookup) {hs : List Happening}
    (hagrees : ∀ h ∈ hs, h.Agrees lookup) : (hs.foldl Run.step run).OnCourse r lookup :=
  List.foldlRecOn hs Run.step hrun fun _ ih h hh => ih.step (hagrees h hh)

end Run

/-! ## What every point of the course has in common -/

/-- The states that a registrant goes through when nothing goes wrong. -/
def Registrant.itinerary (r : Registrant) : List State :=
  [.starting, .registering, .running] ++
    if r.reload then [.stopped] else [.deregistering, .stopped]

namespace Waypoint

variable {r : Registrant} {lookup : Except ProxyError Labels} {stage : Stage}
  {entered : List State} {sent : List Request}

theorem entered_isPrefix (h : Waypoint r lookup stage entered sent) : entered <+: r.itinerary := by
  cases h with
  | waiting | searching | notFound | registering | unregistered | running =>
      exact List.IsPrefix.trans (by decide) (List.prefix_append _ _)
  | reloaded _ _ hreload =>
      rw [Registrant.itinerary, if_pos hreload]
      exact List.prefix_rfl
  | deregistering _ _ _ hreload | unremoved _ _ _ hreload | stopped _ _ _ hreload =>
      rw [Registrant.itinerary, if_neg (by simp [hreload])]
      decide

theorem getLast?_entered (h : Waypoint r lookup stage entered sent) :
    entered.getLast? = some stage.state := by
  cases h <;> rfl

theorem state_eq_stopped_iff (stage : Stage) : stage.state = .stopped ↔ stage = .stopped := by
  cases stage with
  | calling errand | failed errand => cases errand <;> simp [Stage.state, Errand.state]
  | waiting | searching | running | stopped => simp [Stage.state]

theorem sent_of_error (h : Waypoint r lookup stage entered sent) {e : ProxyError}
    (he : lookup = .error e) : sent = [] := by
  cases h with
  | waiting | searching | notFound => rfl
  | registering hlookup | unregistered hlookup | running hlookup | reloaded hlookup
  | deregistering hlookup | unremoved hlookup | stopped hlookup =>
      rw [he] at hlookup
      cases hlookup

theorem reload_of_deregistering (h : Waypoint r lookup stage entered sent)
    (hentered : State.deregistering ∈ entered) : r.reload = false := by
  cases h with
  | waiting | searching | notFound | registering | unregistered | running | reloaded =>
      simp at hentered
  | deregistering _ _ _ hreload | unremoved _ _ _ hreload | stopped _ _ _ hreload => exact hreload

end Waypoint

namespace Run

/-- A run is over when it has stopped or failed. -/
def IsOver (run : Run) : Prop :=
  run.stage = .stopped ∨ ∃ errand e, run.stage = .failed errand e

theorem isOver_and_ok_iff (run : Run) : run.IsOver ∧ run.result = .ok () ↔ run.stage = .stopped := by
  rw [IsOver, result]
  cases run.stage <;> simp

theorem isOver_and_error_iff (run : Run) (e : ProxyError) :
    run.IsOver ∧ run.result = .error e ↔ ∃ errand, run.stage = .failed errand e := by
  rw [IsOver, result]
  cases run.stage <;> simp

theorem OnCourse.allows_of_calling {r : Registrant} {lookup : Except ProxyError Labels} {run : Run}
    (hrun : run.OnCourse r lookup) {errand : Errand} {q : Request} {n : Nat}
    (hstage : run.stage = .calling errand q n) : r.Allows n := by
  have hway := hrun.waypoint
  rw [hstage] at hway
  generalize run.entered = entered, run.sent = sent at hway
  cases hway with
  | registering _ hn | deregistering _ _ hn => exact hn

/-- A run that calls has sent the request last that it calls with. -/
theorem OnCourse.getLast?_sent {r : Registrant} {lookup : Except ProxyError Labels} {run : Run}
    (hrun : run.OnCourse r lookup) {errand : Errand} {q : Request} {n : Nat}
    (hstage : run.stage = .calling errand q n) :
    run.sent.getLast? = some q ∧ q.action = errand.action := by
  have hlast : ∀ (m : Nat) (q : Request), r.Allows m → (List.replicate m q).getLast? = some q := by
    intro m q hm
    rw [List.getLast?_replicate, if_neg (Nat.ne_of_gt hm.1)]
  have hway := hrun.waypoint
  rw [hstage] at hway
  generalize run.entered = entered, run.sent = sent at hway
  cases hway with
  | registering _ hn => exact ⟨hlast _ _ hn, rfl⟩
  | deregistering _ _ hn => exact ⟨by rw [List.getLast?_append, hlast _ _ hn, Option.some_or], rfl⟩

/-- The copies of its two requests that a run has sent.  One that is over has sent the first, and one
that has come to deregister the second. -/
theorem OnCourse.sent_of_ok {r : Registrant} {lookup : Except ProxyError Labels} {run : Run}
    (hrun : run.OnCourse r lookup) {l : Labels} (hl : lookup = .ok l) :
    ∃ m n, run.sent = List.replicate m (r.registration l) ++ List.replicate n (r.removal l) ∧
      (m = 0 ∨ r.Allows m) ∧ (run.IsOver → m ≠ 0) ∧
      (n = 0 ∨ r.Allows n) ∧ (n ≠ 0 ↔ State.deregistering ∈ run.entered) := by
  have hpos : ∀ n, r.Allows n → n ≠ 0 := fun n hn => Nat.ne_of_gt hn.1
  have hsame : ∀ l', lookup = .ok l' → l' = l := fun l' hl' => Except.ok.inj (hl'.symm.trans hl)
  obtain ⟨registrant, stage, stop, entered, sent⟩ := run
  have hway := hrun.waypoint
  dsimp only at hway
  cases hway with
  | waiting | searching => exact ⟨0, 0, rfl, .inl rfl, by simp [IsOver], .inl rfl, by simp⟩
  | notFound hlookup => cases hl.symm.trans hlookup
  | @registering l' n hlookup hn | @unregistered l' n _ hlookup hn | @running l' n hlookup hn
  | @reloaded l' n hlookup hn =>
      obtain rfl := hsame l' hlookup
      exact ⟨n, 0, by simp, .inr hn, fun _ => hpos n hn, .inl rfl, by simp⟩
  | @deregistering l' m n hlookup hm hn | @unremoved l' m n _ hlookup hm hn
  | @stopped l' m n hlookup hm hn =>
      obtain rfl := hsame l' hlookup
      exact ⟨m, n, rfl, .inr hm, fun _ => hpos m hm, .inr hn, by simp [hpos n hn]⟩

end Run

end MeshRegistry.Proxy
