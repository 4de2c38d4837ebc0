/-!
# The hand-over slot

A slot hands values from the controlling side to the processing side. A
published value is pending until the processing side polls it; the value that
it replaces there is retired, because only the controlling side may drop
values. Every operation gives back what it drops, in order, and each of them is
made of steps that are taken one at a time.
-/

namespace VariableBridge

/-- The two cells between the sides. -/
structure Slot (α : Type) where
  /-- A published value that was not polled yet. -/
  pending : Option α
  /-- A value that the processing side is done with. -/
  retired : Option α
  deriving DecidableEq, Repr

namespace Slot

variable {α : Type}

/-- A slot without values. -/
def empty : Slot α := ⟨none, none⟩

instance : Inhabited (Slot α) := ⟨empty⟩

/-- Take the pending value out. -/
def takePending (s : Slot α) : Option α × Slot α := (s.pending, { s with pending := none })

/-- Take the retired value out. -/
def takeRetired (s : Slot α) : Option α × Slot α := (s.retired, { s with retired := none })

/-- Put a value into the pending cell and take the old one out. -/
def replacePending (s : Slot α) (v : α) : Option α × Slot α :=
  (s.pending, { s with pending := some v })

/-- Offer a value. Drops the retired value and then the one that was still pending. -/
def publish (s : Slot α) (v : α) : List α × Slot α :=
  let (retired, s₁) := s.takeRetired
  let (pending, s₂) := s₁.replacePending v
  (retired.toList ++ pending.toList, s₂)

/-- Swap a pending value into the current one. Says whether it did; while a retired
value is still there, nothing happens. -/
def poll (s : Slot α) (current : Option α) : Bool × Option α × Slot α :=
  match s.pending, s.retired with
  | some v, none => (true, some v, ⟨none, current⟩)
  | _, _ => (false, current, s)

/-- Drop the retired value. -/
def collect (s : Slot α) : Option α × Slot α := s.takeRetired

/-- Drop the pending value and then the retired one. -/
def clear (s : Slot α) : List α × Slot α :=
  let (pending, s₁) := s.takePending
  let (retired, s₂) := s₁.takeRetired
  (pending.toList ++ retired.toList, s₂)

/-- Is a value pending? -/
def hasPending (s : Slot α) : Bool := s.pending.isSome

/-- All values of the slot, the pending one first. -/
def values (s : Slot α) : List α := s.pending.toList ++ s.retired.toList

/-- To publish drops the retired value first and the pending one after it, which is the order in
which streams are closed. -/
@[simp] theorem publish_fst (s : Slot α) (v : α) :
    (s.publish v).1 = s.retired.toList ++ s.pending.toList := rfl

/-- After a value was published it is the pending one, and the retired cell is free for the value
that it will replace. -/
@[simp] theorem publish_snd (s : Slot α) (v : α) : (s.publish v).2 = ⟨some v, none⟩ := rfl

/-- To clear a slot drops all that is in it, the pending value before the retired one. -/
@[simp] theorem clear_fst (s : Slot α) : s.clear.1 = s.values := rfl

/-- A cleared slot has no value in either cell, so that no later poll finds anything to take into
use. -/
@[simp] theorem clear_snd (s : Slot α) : s.clear.2 = empty := rfl

end Slot

end VariableBridge
