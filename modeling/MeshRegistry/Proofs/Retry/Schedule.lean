import Mathlib.Algebra.BigOperators.Ring.List
import Mathlib.Algebra.Ring.Nat
import Mathlib.Data.List.Basic
import MeshRegistry.Retry

/-!
# The schedule of a run

A run makes its attempts one after another, each but the last followed by its own delay, and ends
with the first attempt that leaves nothing to hope for, or with the last that is allowed.  Nothing
follows that attempt: its outcome is the result, and the delay that belongs to it is not slept.
-/

namespace MeshRegistry.RetryPolicy

variable {σ ε α : Type}

/-- What a run does to the world around it. -/
inductive Deed where
  | attempt (number : Nat)
  | pause (delay : Nat)
deriving DecidableEq, Repr

/-- What a deed leaves of a state. -/
def Deed.perform (operation : Nat → σ → Except ε α × σ) (sleep : Nat → σ → σ) (s : σ) : Deed → σ
  | attempt number => (operation number s).2
  | pause delay => sleep delay s

/-- The first attempts of a run, each with the pause behind it. -/
def opening (p : RetryPolicy) (n : Nat) : List Deed :=
  ((p.delays.take n).zipIdx 1).flatMap fun (delay, number) => [.attempt number, .pause delay]

/-- Is the outcome of an attempt a failure that may pass? -/
def mayPass (isRetryable : ε → Bool) : Except ε α → Bool
  | .ok _ => false
  | .error e => isRetryable e

/-- The first of the attempts allowed whose outcome is no failure that may pass, or else the last. -/
def lastAttempt (p : RetryPolicy) (isRetryable : ε → Bool) (outcome : Nat → Except ε α) : Nat :=
  ((List.range' 1 (max p.delays.length 1)).find? fun number =>
    !mayPass isRetryable (outcome number)).getD (max p.delays.length 1)

section

variable (p : RetryPolicy) (operation : Nat → σ → Except ε α × σ) (sleep : Nat → σ → σ) (s : σ)

/-- The state in which an attempt is made, if the run comes to it. -/
def stateBefore (number : Nat) : σ :=
  (p.opening (number - 1)).foldl (Deed.perform operation sleep) s

/-- The outcome of an attempt, if the run comes to it. -/
def outcomeAt (number : Nat) : Except ε α :=
  (operation number (p.stateBefore operation sleep s number)).1

end

variable {p : RetryPolicy} {isRetryable : ε → Bool} {operation : Nat → σ → Except ε α × σ}
  {sleep : Nat → σ → σ} {s : σ}

/-! ## One attempt -/

theorem opening_succ {n : Nat} (h : n < p.delays.length) :
    p.opening (n + 1) = p.opening n ++ [.attempt (n + 1), .pause p.delays[n]] := by
  have hlength : (p.delays.take n).length = n := List.length_take_of_le (Nat.le_of_lt h)
  rw [opening, List.take_succ_eq_append_getElem h, List.zipIdx_append, List.flatMap_append, hlength,
    opening, Nat.add_comm 1 n]
  rfl

theorem stateBefore_succ {n : Nat} (h : n < p.delays.length) :
    p.stateBefore operation sleep s (n + 2) =
      sleep p.delays[n] (operation (n + 1) (p.stateBefore operation sleep s (n + 1))).2 := by
  have hnumber : n + 2 - 1 = n + 1 := rfl
  rw [stateBefore, hnumber, opening_succ h, List.foldl_append]
  rfl

theorem runFrom_of_mayPass (p : RetryPolicy) (sleep : Nat → σ → σ) {n : Nat}
    (hpass : mayPass isRetryable (operation (n + 1) s).1 = true)
    (hn : n + 1 < max p.delays.length 1) :
    ∃ h : n < p.delays.length,
      p.runFrom isRetryable operation sleep (n + 1) s =
        p.runFrom isRetryable operation sleep (n + 2)
          (sleep p.delays[n] (operation (n + 1) s).2) := by
  have hdelay : n < p.delays.length := by omega
  refine ⟨hdelay, ?_⟩
  have hbackoff : p.backoff (n + 1) = p.delays[n] := by
    rw [backoff, List.getElem?_eq_getElem hdelay, Option.getD_some]
  rw [runFrom]
  split
  case h_1 hoperation =>
    rw [hoperation] at hpass
    cases hpass
  case h_2 e after hoperation =>
    rw [hoperation] at hpass
    have hretry : p.shouldRetry (n + 1) (isRetryable e) = true := by
      rw [shouldRetry, maxAttempts, decide_eq_true hn, Bool.true_and]
      exact hpass
    rw [dif_pos hretry, hbackoff, hoperation]

theorem runFrom_of_last {n : Nat}
    (hlast : mayPass isRetryable (operation n s).1 = true → max p.delays.length 1 ≤ n) :
    p.runFrom isRetryable operation sleep n s = operation n s := by
  rw [runFrom]
  split
  case h_1 hoperation => exact hoperation.symm
  case h_2 e after hoperation =>
    rw [hoperation] at hlast
    have hretry : ¬ p.shouldRetry n (isRetryable e) = true := by
      rw [shouldRetry, maxAttempts, Bool.and_eq_true, decide_eq_true_eq]
      rintro ⟨hn, hpass⟩
      have hall := hlast hpass
      omega
    rw [dif_neg hretry, hoperation]

/-! ## The whole run -/

/-- When some attempts have failed in a way that may pass, those that are left decide alike. -/
theorem runFrom_stateBefore {n left : Nat} (hpos : 0 < left)
    (hleft : n + left = max p.delays.length 1) :
    p.runFrom isRetryable operation sleep (n + 1) (p.stateBefore operation sleep s (n + 1)) =
      let last := ((List.range' (n + 1) left).find? fun number =>
        !mayPass isRetryable (p.outcomeAt operation sleep s number)).getD (max p.delays.length 1)
      operation last (p.stateBefore operation sleep s last) := by
  induction left generalizing n with
  | zero => omega
  | succ left ih =>
      rw [List.range'_succ, List.find?_cons]
      cases hpass : mayPass isRetryable (p.outcomeAt operation sleep s (n + 1)) with
      | false =>
          apply runFrom_of_last
          intro htrue
          rw [outcomeAt, htrue] at hpass
          cases hpass
      | true =>
          by_cases hzero : left = 0
          · have hlast : max p.delays.length 1 = n + 1 := by omega
            rw [hzero, List.range'_zero]
            simp only [Bool.not_true, List.find?_nil, Option.getD_none, hlast]
            exact runFrom_of_last fun _ => Nat.le_of_eq hlast
          · obtain ⟨hdelay, hstep⟩ := runFrom_of_mayPass p sleep hpass (by omega)
            have hnext := ih (n := n + 1) (by omega) (by omega)
            rw [stateBefore_succ hdelay] at hnext
            rw [hstep]
            exact hnext

/-- A run comes to its last attempt and ends with it. -/
theorem run_eq (p : RetryPolicy) (isRetryable : ε → Bool) (operation : Nat → σ → Except ε α × σ)
    (sleep : Nat → σ → σ) (s : σ) :
    p.run isRetryable operation sleep s =
      let last := p.lastAttempt isRetryable (p.outcomeAt operation sleep s)
      operation last (p.stateBefore operation sleep s last) :=
  runFrom_stateBefore (Nat.le_max_right _ _) (Nat.zero_add _)

theorem lastAttempt_le (p : RetryPolicy) (isRetryable : ε → Bool) (outcome : Nat → Except ε α) :
    1 ≤ p.lastAttempt isRetryable outcome ∧
      p.lastAttempt isRetryable outcome ≤ max p.delays.length 1 := by
  rw [lastAttempt]
  cases hfind : (List.range' 1 (max p.delays.length 1)).find? fun number =>
      !mayPass isRetryable (outcome number) with
  | none => exact ⟨Nat.le_max_right _ _, Nat.le_refl _⟩
  | some number =>
      have hmem := List.mem_range'_1.1 (List.mem_of_find?_eq_some hfind)
      rw [Option.getD_some]
      omega

/-! ## With a timer -/

/-- How long the timer sleeps for a delay. -/
def sleptFor (delay : Nat) : Nat :=
  min (Time.roundUp delay) Time.longestWait

/-- The moment of an attempt, if the attempts before it take no time and all fail. -/
def startOf (p : RetryPolicy) (number : Nat) : Nat :=
  ((p.delays.take (number - 1)).map sleptFor).sum

theorem roundUp_of_dvd {t : Nat} (h : Time.millisecond ∣ t) : Time.roundUp t = t := by
  unfold Time.roundUp Time.millisecond at *
  omega

theorem roundUp_add {now : Nat} (h : Time.millisecond ∣ now) (t : Nat) :
    Time.roundUp (now + t) = now + Time.roundUp t := by
  unfold Time.roundUp Time.millisecond at *
  omega

theorem roundUp_min {limit : Nat} (h : Time.millisecond ∣ limit) (t : Nat) :
    Time.roundUp (min t limit) = min (Time.roundUp t) limit := by
  unfold Time.roundUp Time.millisecond at *
  omega

theorem dvd_roundUp (t : Nat) : Time.millisecond ∣ Time.roundUp t :=
  Nat.dvd_mul_left _ _

theorem dvd_longestWait : Time.millisecond ∣ Time.longestWait :=
  Nat.dvd_mul_left _ _

/-- A timer that is set at a whole millisecond sleeps whole milliseconds. -/
theorem timerEnd_of_dvd {now : Nat} (h : Time.millisecond ∣ now) (delay : Nat) :
    Time.timerEnd now delay = now + sleptFor delay := by
  rw [Time.timerEnd, roundUp_add h, roundUp_min dvd_longestWait, sleptFor]

theorem dvd_sleptFor (delay : Nat) : Time.millisecond ∣ sleptFor delay := by
  rw [sleptFor, ← roundUp_min dvd_longestWait]
  exact dvd_roundUp _

theorem dvd_startOf (p : RetryPolicy) (number : Nat) : Time.millisecond ∣ p.startOf number := by
  apply List.dvd_sum
  intro slept hslept
  obtain ⟨delay, -, rfl⟩ := List.mem_map.1 hslept
  exact dvd_sleptFor delay

theorem startOf_succ {n : Nat} (h : n < p.delays.length) :
    p.startOf (n + 2) = Time.timerEnd (p.startOf (n + 1)) p.delays[n] := by
  have hnumber : n + 2 - 1 = n + 1 := rfl
  rw [timerEnd_of_dvd (p.dvd_startOf (n + 1)), startOf, hnumber,
    List.take_succ_eq_append_getElem h, List.map_append, List.sum_append, List.map_singleton,
    List.sum_singleton, startOf, Nat.add_sub_cancel]

/-- Delays of whole milliseconds, none beyond the longest wait, are slept to their ends. -/
theorem startOf_eq_sum (p : RetryPolicy) (number : Nat)
    (h : ∀ delay ∈ p.delays.take (number - 1),
      Time.millisecond ∣ delay ∧ delay ≤ Time.longestWait) :
    p.startOf number = (p.delays.take (number - 1)).sum := by
  have hslept : ∀ delay ∈ p.delays.take (number - 1), sleptFor delay = delay := by
    intro delay hdelay
    obtain ⟨hwhole, hle⟩ := h delay hdelay
    rw [sleptFor, roundUp_of_dvd hwhole, Nat.min_eq_left hle]
  rw [startOf, List.map_congr_left hslept, List.map_id']

theorem stateBefore_timed (outcome : Nat → Except ε α) {n : Nat} (hn : n ≤ p.delays.length) :
    p.stateBefore
        (fun attempt (now, starts) => (outcome attempt, now, starts ++ [(attempt, now)]))
        (fun delay (now, starts) => (Time.timerEnd now delay, starts)) (0, []) (n + 1) =
      (p.startOf (n + 1), (List.range n).map fun i => (i + 1, p.startOf (i + 1))) := by
  induction n with
  | zero => rfl
  | succ n ih =>
      have hdelay : n < p.delays.length := hn
      rw [stateBefore_succ hdelay, ih (Nat.le_of_lt hdelay), startOf_succ hdelay, List.range_succ,
        List.map_append]
      rfl

theorem runTimed_eq (p : RetryPolicy) (isRetryable : ε → Bool) (outcome : Nat → Except ε α) :
    p.runTimed isRetryable outcome =
      let last := p.lastAttempt isRetryable outcome
      (outcome last, (List.range last).map fun i => (i + 1, p.startOf (i + 1))) := by
  obtain ⟨hpos, hle⟩ := p.lastAttempt_le isRetryable outcome
  obtain ⟨n, hn⟩ := Nat.exists_eq_add_of_le' hpos
  have hstate := stateBefore_timed (p := p) outcome (n := n) (by omega)
  rw [runTimed, run_eq]
  have houtcome : p.outcomeAt
      (fun attempt (now, starts) => (outcome attempt, now, starts ++ [(attempt, now)]))
      (fun delay (now, starts) => (Time.timerEnd now delay, starts)) (0, []) = outcome := rfl
  rw [houtcome, hn]
  simp only [hstate, List.range_succ, List.map_append]
  rfl

/-- The moments of the attempts are sums of delays. -/
def SleepsDelays (p : RetryPolicy) (outcome : Nat → Except Bool Nat) : Prop :=
  (p.runTimed id outcome).2 =
    (List.range (p.lastAttempt id outcome)).map fun i => (i + 1, (p.delays.take i).sum)

end MeshRegistry.RetryPolicy
