import Mathlib.Data.List.Induction
import MeshRegistry.Proofs.Proxy.Course

/-!
# How a registrant conducts itself

The run of a registrant is followed through everything that happens to it.  What it has done by then
says what must have happened before: a mapping is taken back only once it is registered and the
registrant was asked to stop, and a failure is that of the search or of the last attempt.
-/

namespace MeshRegistry.Proxy

/-- The run of a registrant once some things have happened to it. -/
def Registrant.follow (r : Registrant) (hs : List Happening) : Run :=
  hs.foldl Run.step (Run.start r)

variable {r : Registrant} {lookup : Except ProxyError Labels} {hs : List Happening}

theorem follow_append (r : Registrant) (hs hs' : List Happening) :
    r.follow (hs ++ hs') = hs'.foldl Run.step (r.follow hs) :=
  List.foldl_append

theorem follow_concat (r : Registrant) (hs : List Happening) (h : Happening) :
    r.follow (hs ++ [h]) = (r.follow hs).step h :=
  follow_append r hs [h]

theorem onCourse_follow (hagrees : ∀ h ∈ hs, h.Agrees lookup) :
    (r.follow hs).OnCourse r lookup :=
  (Run.onCourse_start r lookup).foldl hagrees

/-! ## What must have happened before -/

/-- What holds of a run and did not hold at its start came about by one of its moves. -/
theorem exists_move {P : Run → Prop} (hstart : ¬ P (Run.start r)) (hend : P (r.follow hs)) :
    ∃ before h after, hs = before ++ h :: after ∧ ¬ P (r.follow before) ∧
      P (r.follow (before ++ [h])) ∧ (r.follow before).Move h (r.follow (before ++ [h])) := by
  induction hs using List.reverseRecOn with
  | nil => exact absurd hend hstart
  | append_singleton hs h ih =>
      by_cases hP : P (r.follow hs)
      · obtain ⟨before, h', after, rfl, hturn⟩ := ih hP
        exact ⟨before, h', after ++ [h], by simp, hturn⟩
      · have hmove := (r.follow hs).move_step h
        rw [← follow_concat] at hmove
        exact ⟨hs, h, [], rfl, hP, hend, hmove⟩

/-- Somebody asked a registrant to stop if its run knows of it. -/
theorem stopRequested_mem (h : (r.follow hs).stopRequested = true) :
    Happening.stopRequested ∈ hs := by
  obtain ⟨before, h', after, rfl, hnot, hturn, hmove⟩ :=
    exists_move (P := fun run => run.stopRequested = true) Bool.false_ne_true h
  suffices h' = .stopRequested by simp [this]
  generalize r.follow (before ++ [h']) = run' at hturn hmove
  cases hmove with
  | askedToStop => rfl
  | registered | reloaded | deregistered | triedAgain | gaveUp | notFound | found | began | closed
  | ignored => exact absurd hturn hnot

/-- Among some happenings is the answer with which the registry took a mapping in. -/
def Registrant.HeardOfSuccess (r : Registrant) (hs : List Happening) : Prop :=
  ∃ before reply after q n, hs = before ++ .answered (.ok reply) :: after ∧
    (r.follow before).stage = .calling .register q n

/-- A registrant runs only if the registry has taken its mapping in. -/
theorem heardOfSuccess_of_running (h : State.running ∈ (r.follow hs).entered) :
    r.HeardOfSuccess hs := by
  obtain ⟨before, h', after, rfl, hnot, hturn, hmove⟩ :=
    exists_move (P := fun run => run.HasDone .register) (by simp [Run.HasDone, Run.start]) h
  obtain ⟨⟨reply, rfl⟩, q, n, hstage⟩ := hmove.calling_of_hasDone hnot hturn
  exact ⟨before, reply, after, q, n, rfl, hstage⟩

/-- A registrant turns to deregistering when it notices that it was asked to stop, and not before the
registry has taken its mapping in. -/
theorem exists_stopNoticed (hagrees : ∀ h ∈ hs, h.Agrees lookup)
    (h : State.deregistering ∈ (r.follow hs).entered) :
    ∃ before after, hs = before ++ .stopNoticed :: after ∧ Happening.stopRequested ∈ before ∧
      r.HeardOfSuccess before ∧ State.deregistering ∉ (r.follow before).entered := by
  obtain ⟨before, h', after, rfl, hnot, hturn, hmove⟩ :=
    exists_move (P := fun run => State.deregistering ∈ run.entered) (by simp [Run.start]) h
  have hbefore : (r.follow before).OnCourse r lookup :=
    onCourse_follow fun h hh => hagrees h (List.mem_append_left _ hh)
  generalize r.follow (before ++ [h']) = run' at hturn hmove
  cases hmove with
  | closed hstage hstop =>
      refine ⟨before, after, rfl, stopRequested_mem hstop, heardOfSuccess_of_running ?_, hnot⟩
      have hlast := hbefore.waypoint.getLast?_entered
      rw [hstage] at hlast
      exact List.mem_of_getLast? hlast
  | began | registered | reloaded | deregistered =>
      simp [Run.enter, Stage.state, hnot] at hturn
  | askedToStop | triedAgain | gaveUp | notFound | found | ignored => exact absurd hturn hnot

/-! ## How a run ends -/

namespace Run

theorem IsOver.move {run run' : Run} (hover : run.IsOver) {h : Happening} (hmove : run.Move h run') :
    run'.IsOver ∧ run'.sent = run.sent := by
  have hstage : ∀ stage, run.stage = stage → stage = .stopped ∨ ∃ errand e, stage = .failed errand e := by
    rintro _ rfl
    exact hover
  cases hmove with
  | askedToStop | ignored => exact ⟨hover, rfl⟩
  | began h | notFound h | found h | registered h | reloaded h | deregistered h | triedAgain h
  | gaveUp h | closed h => simpa using hstage _ h

theorem IsOver.foldl {run : Run} (hover : run.IsOver) (hs : List Happening) :
    (hs.foldl step run).IsOver ∧ (hs.foldl step run).sent = run.sent := by
  refine List.foldlRecOn (motive := fun run' => run'.IsOver ∧ run'.sent = run.sent) hs step
    ⟨hover, rfl⟩ ?_
  rintro run' ⟨hover', hsent⟩ h -
  rw [← hsent]
  exact hover'.move (run'.move_step h)

theorem stopRequested_foldl {run : Run} (hstop : run.stopRequested = true) (hs : List Happening) :
    (hs.foldl step run).stopRequested = true := by
  refine List.foldlRecOn (motive := fun run => run.stopRequested = true) hs step hstop ?_
  intro run' hstop' h _
  have hmove := run'.move_step h
  generalize run'.step h = run'' at hmove
  cases hmove with
  | askedToStop => rfl
  | began | notFound | found | registered | reloaded | deregistered | triedAgain | gaveUp | closed
  | ignored => exact hstop'

end Run

/-- A run that failed has failed its search, or an attempt after which it has made no more. -/
theorem exists_failure (hagrees : ∀ h ∈ hs, h.Agrees lookup) {errand : Errand} {e : ProxyError}
    (h : (r.follow hs).stage = .failed errand e) :
    (errand = .register ∧ lookup = .error e) ∨
      ∃ before c after q n, hs = before ++ .answered (.error c) :: after ∧
        (r.follow before).stage = .calling errand q n ∧
        (r.follow before).sent = (r.follow hs).sent ∧ e = .registration c := by
  obtain ⟨before, h', after, rfl, hnot, hturn, hmove⟩ :=
    exists_move (P := fun run => run.stage = .failed errand e) (by simp [Run.start]) h
  have hafter : (r.follow (before ++ h' :: after)).sent = (r.follow (before ++ [h'])).sent := by
    have hover : (r.follow (before ++ [h'])).IsOver := .inr ⟨errand, e, hturn⟩
    rw [← (hover.foldl after).2, ← follow_append, List.append_assoc, List.singleton_append]
  rw [hafter]
  generalize r.follow (before ++ [h']) = run' at hturn hmove
  cases hmove with
  | notFound =>
      cases hturn
      exact .inl ⟨rfl, (hagrees _ (by simp) _ rfl).symm⟩
  | gaveUp hstage =>
      cases hturn
      exact .inr ⟨before, _, after, _, _, rfl, hstage, rfl, rfl⟩
  | began | registered | reloaded | deregistered | triedAgain | found | closed => cases hturn
  | askedToStop | ignored => exact absurd hturn hnot

/-! ## A run from beginning to end -/

namespace Run

variable {run : Run} {caller : Channel.Caller} {line : Channel.Line}

theorem converse_of_calling {errand : Errand} {q : Request} {k : Nat}
    (hstage : run.stage = .calling errand q k) (n : Nat) :
    run.converse caller (n + 1) line =
      (run.step (.answered (caller.attempt q line).1)).converse caller n
        (caller.attempt q line).2 := by
  rw [converse, hstage]

theorem converse_of_not_calling (hstage : ∀ errand q k, run.stage ≠ .calling errand q k) (n : Nat) :
    run.converse caller n line = (run, line) := by
  cases n with
  | zero => rfl
  | succ n =>
      rw [converse]
      split
      next heq => exact absurd heq (hstage _ _ _)
      next => rfl

/-- An errand is done when the run is over, or runs because it has registered. -/
def IsDone (run : Run) (errand : Errand) : Prop :=
  run.IsOver ∨ errand = .register ∧ ∃ q, run.stage = .running q

theorem IsDone.not_calling {errand : Errand} (h : run.IsDone errand) (errand' : Errand) (q : Request)
    (k : Nat) : run.stage ≠ .calling errand' q k := by
  intro hstage
  simp [IsDone, IsOver, hstage] at h

/-- An answer ends an errand, or another attempt follows. -/
theorem isDone_or_calling {errand : Errand} {q : Request} {k : Nat}
    (hstage : run.stage = .calling errand q k) (outcome : Except Channel.CallError Reply) :
    (run.step (.answered outcome)).IsDone errand ∨
      (run.step (.answered outcome)).stage = .calling errand q (k + 1) := by
  cases outcome with
  | ok reply =>
      cases errand with
      | register =>
          cases hreload : run.registrant.reload with
          | true => exact .inl (.inl (.inl (by simp [step, hstage, accomplished, enter, hreload])))
          | false => exact .inl (.inr ⟨rfl, q, by simp [step, hstage, accomplished, enter, hreload]⟩)
      | deregister => exact .inl (.inl (.inl (by simp [step, hstage, accomplished, enter])))
  | error e =>
      cases hretry : run.registrant.policy.shouldRetry k e.isRetryable with
      | true => exact .inr (by simp [step, hstage, hretry, attempt])
      | false => exact .inl (.inl (.inr ⟨errand, _, by simp [step, hstage, hretry]; rfl⟩))

/-- As many calls as the policy has attempts left bring an errand to its end. -/
theorem exists_converse_eq (caller : Channel.Caller) (hrun : run.OnCourse r lookup)
    {errand : Errand} {q : Request} {k n : Nat} (hstage : run.stage = .calling errand q k)
    (hn : r.policy.maxAttempts < k + n) (line : Channel.Line) :
    ∃ outcomes : List (Except Channel.CallError Reply),
      (run.converse caller n line).1 = (outcomes.map Happening.answered).foldl step run ∧
        ((outcomes.map Happening.answered).foldl step run).IsDone errand := by
  induction n generalizing run k line with
  | zero =>
      have hk := hrun.allows_of_calling hstage
      exact absurd hk.2 (by omega)
  | succ n ih =>
      rw [converse_of_calling hstage]
      generalize caller.attempt q line = heard
      obtain ⟨outcome, line'⟩ := heard
      rcases isDone_or_calling hstage outcome with hdone | hagain
      · rw [converse_of_not_calling hdone.not_calling]
        exact ⟨[outcome], rfl, hdone⟩
      · have hnext := hrun.step (agrees_answered lookup outcome)
        obtain ⟨outcomes, heq, hdone⟩ := ih hnext hagain (by omega) line'
        exact ⟨outcome :: outcomes, heq, hdone⟩

/-- A run that has registered, or has failed to, is over once it has noticed that it is to stop and has
made its calls. -/
theorem exists_converse_stopNoticed_eq (caller : Channel.Caller) (hrun : run.OnCourse r lookup)
    (hdone : run.IsDone .register) (hstop : run.stopRequested = true) (line : Channel.Line) :
    ∃ outcomes : List (Except Channel.CallError Reply),
      ((run.step .stopNoticed).converse caller r.policy.maxAttempts line).1 =
          (outcomes.map Happening.answered).foldl step (run.step .stopNoticed) ∧
        ((outcomes.map Happening.answered).foldl step (run.step .stopNoticed)).IsOver := by
  rcases hdone with hover | ⟨-, q, hstage⟩
  · have hover' := (hover.move (run.move_step .stopNoticed)).1
    have hdone' : (run.step .stopNoticed).IsDone .register := .inl hover'
    rw [converse_of_not_calling hdone'.not_calling]
    exact ⟨[], rfl, hover'⟩
  · have hclosed : run.step .stopNoticed = run.close q := by simp [step, hstage, hstop]
    have hnext : (run.close q).OnCourse r lookup :=
      hclosed ▸ hrun.step (agrees_stopNoticed lookup)
    rw [hclosed]
    obtain ⟨outcomes, heq, hdone⟩ :=
      exists_converse_eq caller hnext rfl (Nat.lt_one_add_iff.2 (Nat.le_refl _)) line
    refine ⟨outcomes, heq, ?_⟩
    simpa [IsDone] using hdone

end Run

/-- What happens to a run from beginning to end before it makes its first call. -/
def firstHappenings (lookup : Except ProxyError Labels) : List Happening :=
  [.stopRequested, .graceOver, .found lookup]

theorem run_eq (r : Registrant) (caller : Channel.Caller) (lookup : Except ProxyError Labels)
    (line : Channel.Line) :
    r.run caller lookup line =
      let first := (r.follow (firstHappenings lookup)).converse caller r.policy.maxAttempts line
      (first.1.step .stopNoticed).converse caller r.policy.maxAttempts first.2 :=
  rfl

theorem agrees_of_mem_firstHappenings (lookup : Except ProxyError Labels) :
    ∀ h ∈ firstHappenings lookup, h.Agrees lookup := by
  intro h hh outcome houtcome
  subst houtcome
  simpa [firstHappenings] using hh

theorem agrees_of_mem_map_answered (outcomes : List (Except Channel.CallError Reply)) :
    ∀ h ∈ outcomes.map Happening.answered, h.Agrees lookup := by
  intro h hh
  obtain ⟨outcome, -, rfl⟩ := List.mem_map.1 hh
  exact agrees_answered lookup outcome

/-- The search has failed, or the calls to register bring that errand to its end. -/
theorem exists_converse_found_eq (r : Registrant) (caller : Channel.Caller)
    (lookup : Except ProxyError Labels) (line : Channel.Line) :
    ∃ outcomes : List (Except Channel.CallError Reply),
      ((r.follow (firstHappenings lookup)).converse caller r.policy.maxAttempts line).1 =
          r.follow (firstHappenings lookup ++ outcomes.map Happening.answered) ∧
        (r.follow (firstHappenings lookup ++ outcomes.map Happening.answered)).IsDone .register := by
  simp only [follow_append]
  have hrun := onCourse_follow (r := r) (agrees_of_mem_firstHappenings lookup)
  cases lookup with
  | error e =>
      have hdone : (r.follow (firstHappenings (.error e))).IsDone .register :=
        .inl (.inr ⟨.register, e, rfl⟩)
      rw [Run.converse_of_not_calling hdone.not_calling]
      exact ⟨[], rfl, hdone⟩
  | ok l =>
      exact Run.exists_converse_eq caller hrun rfl (Nat.lt_one_add_iff.2 (Nat.le_refl _)) line

/-- A run from beginning to end is one among those followed above, and it is over. -/
theorem exists_run_eq_follow (r : Registrant) (caller : Channel.Caller)
    (lookup : Except ProxyError Labels) (line : Channel.Line) :
    ∃ hs, (∀ h ∈ hs, h.Agrees lookup) ∧ (r.run caller lookup line).1 = r.follow hs ∧
      (r.follow hs).IsOver := by
  obtain ⟨registering, hregister, hdone⟩ := exists_converse_found_eq r caller lookup line
  have hagrees : ∀ h ∈ firstHappenings lookup ++ registering.map Happening.answered,
      h.Agrees lookup :=
    List.forall_mem_append.2 ⟨agrees_of_mem_firstHappenings lookup, agrees_of_mem_map_answered _⟩
  have hstop : (r.follow (firstHappenings lookup ++ registering.map Happening.answered)).stopRequested =
      true := by
    rw [firstHappenings, List.cons_append, Registrant.follow, List.foldl_cons]
    exact Run.stopRequested_foldl rfl _
  obtain ⟨deregistering, hderegister, hover⟩ := Run.exists_converse_stopNoticed_eq
    caller (onCourse_follow hagrees) hdone hstop
    ((r.follow (firstHappenings lookup)).converse caller r.policy.maxAttempts line).2
  refine ⟨firstHappenings lookup ++ registering.map .answered ++
    .stopNoticed :: deregistering.map .answered, ?_, ?_, ?_⟩
  · exact List.forall_mem_append.2
      ⟨hagrees, List.forall_mem_cons.2 ⟨agrees_stopNoticed lookup, agrees_of_mem_map_answered _⟩⟩
  · rw [run_eq, follow_append, List.foldl_cons, ← hderegister, ← hregister]
  · rw [follow_append, List.foldl_cons]
    exact hover

/-! ## The whole conduct -/

/-- What is known of a registrant whose search comes to `lookup`, once some things have happened to
it.  Since it is known after every beginning of a run, it also says what comes first. -/
structure Registrant.Orderly (r : Registrant) (lookup : Except ProxyError Labels)
    (hs : List Happening) : Prop where
  entered_isPrefix : (r.follow hs).entered <+: r.itinerary
  ok_iff : (r.follow hs).IsOver ∧ (r.follow hs).result = .ok () ↔
    (r.follow hs).entered.getLast? = some .stopped
  sent_of_error : ∀ e, lookup = .error e → (r.follow hs).sent = []
  sent_of_ok : ∀ l, lookup = .ok l → ∃ m n,
    (r.follow hs).sent = List.replicate m (r.registration l) ++ List.replicate n (r.removal l) ∧
      (m = 0 ∨ r.Allows m) ∧ ((r.follow hs).IsOver → m ≠ 0) ∧
      (n = 0 ∨ r.Allows n) ∧ (n ≠ 0 ↔ State.deregistering ∈ (r.follow hs).entered)
  of_deregistering : State.deregistering ∈ (r.follow hs).entered → r.reload = false ∧
    ∃ before after, hs = before ++ .stopNoticed :: after ∧ Happening.stopRequested ∈ before ∧
      r.HeardOfSuccess before ∧ State.deregistering ∉ (r.follow before).entered
  of_error : ∀ e, (r.follow hs).IsOver ∧ (r.follow hs).result = .error e → ∃ errand : Errand,
    (r.follow hs).entered.getLast? = some errand.state ∧
      ((errand = .register ∧ lookup = .error e) ∨
        ∃ before c after q n, hs = before ++ .answered (.error c) :: after ∧
          (r.follow before).stage = .calling errand q n ∧
          (r.follow before).sent = (r.follow hs).sent ∧ e = .registration c)

/-- Whatever happens to a registrant, and in whatever order, it conducts itself in an orderly way; and
a run from beginning to end is one such run that is over. -/
theorem orderly_follow (r : Registrant) (lookup : Except ProxyError Labels) :
    (∀ hs : List Happening, (∀ h ∈ hs, h.Agrees lookup) → r.Orderly lookup hs) ∧
      ∀ (caller : Channel.Caller) (line : Channel.Line), ∃ hs, (∀ h ∈ hs, h.Agrees lookup) ∧
        (r.run caller lookup line).1 = r.follow hs ∧ (r.follow hs).IsOver := by
  refine ⟨?_, fun caller line => exists_run_eq_follow r caller lookup line⟩
  intro hs hagrees
  have hrun := onCourse_follow (r := r) hagrees
  have hlast := hrun.waypoint.getLast?_entered
  refine ⟨hrun.waypoint.entered_isPrefix, ?_, ?_, ?_, ?_, ?_⟩
  · rw [Run.isOver_and_ok_iff, hlast, Option.some_inj, Waypoint.state_eq_stopped_iff]
  · exact fun e he => hrun.waypoint.sent_of_error he
  · exact fun l hl => hrun.sent_of_ok hl
  · intro hentered
    exact ⟨hrun.waypoint.reload_of_deregistering hentered, exists_stopNoticed hagrees hentered⟩
  · intro e he
    obtain ⟨errand, hstage⟩ := ((r.follow hs).isOver_and_error_iff e).1 he
    refine ⟨errand, ?_, exists_failure hagrees hstage⟩
    rw [hlast, hstage]
    rfl

/-- A registrant that tries each of its errands twice at most. -/
def webRegistrant : Registrant :=
  ⟨.v4 ⟨127, 0, 0, 1⟩ 32768, .v4 ⟨172, 17, 0, 2⟩ 80, ⟨[10, 10]⟩, false⟩

def webLabels : Labels := ⟨"awesome-svc", "dev", "http"⟩

/-- It is asked to stop while it registers, at the second attempt, and deregisters then. -/
theorem orderly_webRegistrant :
    let hs : List Happening := [.graceOver, .found (.ok webLabels),
      .answered (.error (.deadline 50000000)), .stopRequested, .answered (.ok .ok), .stopNoticed,
      .answered (.error .closed), .answered (.ok .ok)]
    (∀ h ∈ hs, h.Agrees (.ok webLabels)) ∧ (webRegistrant.follow hs).IsOver ∧
      (webRegistrant.follow hs).sent.map Request.action =
        [.register, .register, .deregister, .deregister] ∧
      webRegistrant.Orderly (.ok webLabels) hs := by
  intro hs
  have hagrees : ∀ h ∈ hs, h.Agrees (.ok webLabels) := by
    simp [hs, Happening.Agrees]
  exact ⟨hagrees, .inl rfl, rfl, (orderly_follow webRegistrant (.ok webLabels)).1 hs hagrees⟩

end MeshRegistry.Proxy
