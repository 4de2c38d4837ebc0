import VariableBridge.Stream.Bus

/-!
# Subscribers

A subscriber is a place in the log of a bus. The bus holds only the newest
messages for it: one that falls too far behind loses the oldest ones and is
told their number before the next message.
-/

namespace VariableBridge

/-- A reader of the log. -/
structure Subscriber where
  /-- Number of messages that are behind the reader. -/
  position : Nat
  deriving DecidableEq, Repr, Inhabited

/-- What a subscriber receives. -/
inductive BusEvent where
  /-- A message. -/
  | message (m : BusMessage)
  /-- This many messages were lost. -/
  | lagged (count : Nat)
  deriving DecidableEq, Repr

namespace Bus

/-- A subscriber of the messages from now on. -/
def subscribe (b : Bus) : Subscriber := ⟨b.log.size⟩

end Bus

namespace Subscriber

/-- Number of messages that are lost to the subscriber. -/
def missed (s : Subscriber) (b : Bus) : Nat := b.log.size - s.position - b.room

/-- Everything that the subscriber has not received yet. -/
def drain (s : Subscriber) (b : Bus) : List BusEvent × Subscriber :=
  let lost := s.missed b
  let messages := (b.log.toList.drop (s.position + lost)).map BusEvent.message
  (if lost = 0 then messages else .lagged lost :: messages, ⟨b.log.size⟩)

/-- A subscriber that has taken all that was on the bus stands at the end of the log, also if some
of it was lost. -/
@[simp] theorem position_drain (s : Subscriber) (b : Bus) : (s.drain b).2.position = b.log.size :=
  rfl

/-- A subscriber that is not too far behind receives exactly the messages of the log. -/
theorem drain_of_missed_eq_zero {s : Subscriber} {b : Bus} (h : s.missed b = 0) :
    (s.drain b).1 = (b.log.toList.drop s.position).map BusEvent.message := by
  simp [drain, h]

end Subscriber

end VariableBridge
