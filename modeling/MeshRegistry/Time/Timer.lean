/-!
# Timers

A timer counts whole milliseconds.  One that is set for a delay goes off at the first of them that is
not earlier, but never more than thirty years from now.  Moments and delays count nanoseconds.
-/

namespace MeshRegistry.Time

def millisecond : Nat := 1000000

/-- The longest wait of a timer, thirty years of 365 days. -/
def longestWait : Nat := 946080000000 * millisecond

/-- The first whole millisecond that is not earlier. -/
def roundUp (t : Nat) : Nat :=
  (t + (millisecond - 1)) / millisecond * millisecond

/-- The moment when a timer that is set now goes off. -/
def timerEnd (now delay : Nat) : Nat :=
  roundUp (now + min delay longestWait)

end MeshRegistry.Time
