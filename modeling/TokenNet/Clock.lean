import TokenNet.Fault

namespace TokenNet

/-!
# Logical time

Time is a count of ticks that starts at zero and only moves forward, one tick at
a time.  What is due at some tick stays due at all later ones.
-/

/-- A clock that counts ticks. -/
structure Clock where
  /-- The number of ticks that have passed. -/
  tick : UInt64
deriving DecidableEq, Repr

namespace Clock

/-- A clock at tick zero. -/
def start : Clock := ⟨0⟩

/-- Moves the clock one tick forward; the last tick has no successor. -/
def advance (clock : Clock) : Except Fault Clock :=
  (checkedAdd clock.tick 1).map Clock.mk

/-- Whether the given tick has been reached. -/
def isDue (clock : Clock) (due : UInt64) : Bool := due ≤ clock.tick

end Clock

end TokenNet
