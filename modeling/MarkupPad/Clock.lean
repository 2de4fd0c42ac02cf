import MarkupPad.Word

/-!
# The logical clock and the pending commit

Time is counted in milliseconds up to a last reading, where the clock stops.  A timer
holds at most one deadline.
-/

namespace MarkupPad

namespace Clock

/-- The last reading of the clock, the greatest number of 64 bits. -/
def last : Nat := Word.limit - 1

/-- The reading a delay after another; the clock stops at its last reading. -/
def after (now delay : Nat) : Nat := min (now + delay) last

end Clock

/-- A timer with at most one deadline. -/
structure Timer where
  deadline : Option Nat
  deriving Repr, DecidableEq

namespace Timer

/-- The timer without a deadline. -/
def idle : Timer := ⟨none⟩

/-- Sets the deadline, in place of any other. -/
def schedule (now delay : Nat) : Timer := ⟨some (Clock.after now delay)⟩

/-- Is there a deadline? -/
def isPending (t : Timer) : Bool := t.deadline.isSome

/-- Has the deadline been reached? -/
def isDue (t : Timer) (now : Nat) : Bool := t.deadline.any (· ≤ now)

/-- Drops the deadline if it has been reached, and tells whether it has. -/
def fire (t : Timer) (now : Nat) : Bool × Timer :=
  if t.isDue now then (true, idle) else (false, t)

end Timer

end MarkupPad
