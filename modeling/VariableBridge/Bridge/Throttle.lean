/-!
# Thinning out

A throttle sends on its first tick and then skips a fixed number of ticks after
each one that sends.
-/

namespace VariableBridge

/-- A counter of ticks that are still skipped. -/
structure Throttle where
  /-- Ticks to skip after each one that sends. -/
  skip : UInt32
  /-- Ticks that are left to skip. -/
  remaining : UInt32
  deriving DecidableEq, Repr, Inhabited

namespace Throttle

/-- A throttle whose first tick sends. -/
def new (skip : UInt32) : Throttle := ⟨skip, 0⟩

/-- One tick. Says whether it sends. -/
def tick (t : Throttle) : Bool × Throttle :=
  if t.remaining = 0 then (true, { t with remaining := t.skip })
  else (false, { t with remaining := t.remaining - 1 })

/-- Which of the next ticks send. -/
def ticks (t : Throttle) : Nat → List Bool
  | 0 => []
  | n + 1 => t.tick.1 :: t.tick.2.ticks n

/-- A tick keeps the skip interval, whether it sends or not: only the number of ticks that are left
to skip changes. -/
@[simp] theorem skip_tick (t : Throttle) : t.tick.2.skip = t.skip := by
  unfold tick; split <;> rfl

/-- A tick sends exactly if nothing is left to skip. A new throttle has nothing to skip, so it sends
at once. -/
theorem tick_fst (t : Throttle) : t.tick.1 = decide (t.remaining = 0) := by
  unfold tick; split <;> simp_all

end Throttle

end VariableBridge
