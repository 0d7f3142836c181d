import MeshRegistry.Time.Timer

/-!
# Retrying

A policy is a list of delays.  It allows as many attempts as it has delays, and at least one; after
attempt `n` has failed in a way that may pass, delay `n` is slept before attempt `n + 1`.
-/

namespace MeshRegistry

/-- How often to try and how long to wait in between, in nanoseconds. -/
structure RetryPolicy where
  delays : List Nat
deriving DecidableEq, Repr

namespace RetryPolicy

def ofMillis (delays : List Nat) : RetryPolicy :=
  ⟨delays.map (· * Time.millisecond)⟩

def standard : RetryPolicy := ofMillis [100, 500, 1000, 1500]

/-- The number of attempts allowed. -/
def maxAttempts (p : RetryPolicy) : Nat :=
  max p.delays.length 1

/-- The delay after an attempt; attempts count from one. -/
def backoff (p : RetryPolicy) (attempt : Nat) : Nat :=
  match attempt with
  | 0 => 0
  | i + 1 => p.delays[i]?.getD 0

def shouldRetry (p : RetryPolicy) (attempt : Nat) (isRetryable : Bool) : Bool :=
  attempt < p.maxAttempts && isRetryable

/-- Attempts from `attempt` on: each is carried out on the state, and so is each delay. -/
def runFrom {σ ε α : Type} (p : RetryPolicy) (isRetryable : ε → Bool)
    (operation : Nat → σ → Except ε α × σ) (sleep : Nat → σ → σ) (attempt : Nat) (s : σ) :
    Except ε α × σ :=
  match operation attempt s with
  | (.ok a, s) => (.ok a, s)
  | (.error e, s) =>
    if h : p.shouldRetry attempt (isRetryable e) then
      runFrom p isRetryable operation sleep (attempt + 1) (sleep (p.backoff attempt) s)
    else (.error e, s)
termination_by p.maxAttempts - attempt
decreasing_by simp [shouldRetry] at h; omega

/-- Tries until an attempt succeeds, fails for good, or is the last; its outcome is the result. -/
def run {σ ε α : Type} (p : RetryPolicy) (isRetryable : ε → Bool)
    (operation : Nat → σ → Except ε α × σ) (sleep : Nat → σ → σ) (s : σ) : Except ε α × σ :=
  p.runFrom isRetryable operation sleep 1 s

/-- Runs an operation that takes no time, from the moment zero on: its outcome, and the number and
the moment of each attempt. -/
def runTimed {ε α : Type} (p : RetryPolicy) (isRetryable : ε → Bool) (outcome : Nat → Except ε α) :
    Except ε α × List (Nat × Nat) :=
  let (result, _, starts) := p.run isRetryable
    (fun attempt (now, starts) => (outcome attempt, now, starts ++ [(attempt, now)]))
    (fun delay (now, starts) => (Time.timerEnd now delay, starts)) (0, [])
  (result, starts)

end RetryPolicy

end MeshRegistry
