import VariableBridge.Space.Memory
import VariableBridge.TypeTag

/-!
# Descriptors

A descriptor says what a variable looks like at one moment: its type, the
number of its elements and where they lie. It is all that a bridge knows of a
variable.
-/

namespace VariableBridge.Space

/-- What a variable looks like. -/
structure Descriptor where
  /-- Type of the elements. -/
  tag : TypeTag
  /-- Number of elements. -/
  count : UInt32
  /-- Where the first element lies. -/
  address : Address
  deriving DecidableEq, Repr, Inhabited

namespace Descriptor

/-- Channels that a stream of this variable has. -/
def channels (d : Descriptor) : UInt32 := saturatingMul d.count d.tag.channelsPerElement

/-- The contract that whoever describes a variable has to keep: all its elements lie in memory.
A variable that lies nowhere has no elements, then. -/
def IsHeldBy (d : Descriptor) (m : Memory) : Prop :=
  d.count.toNat * d.tag.wordsPerElement ≤ (m.wordsFrom d.address).length

instance (d : Descriptor) (m : Memory) : Decidable (d.IsHeldBy m) :=
  inferInstanceAs (Decidable (_ ≤ _))

end Descriptor

/-- A count that does not fit into 32 bits is reported as the greatest one. -/
def reportedCount (length : Nat) : UInt32 := UInt32.ofNat (min length (UInt32.size - 1))

/-- The reported number of elements is the real one as long as 32 bits can hold it, and the greatest
32-bit number otherwise. -/
theorem toNat_reportedCount (length : Nat) :
    (reportedCount length).toNat = min length (UInt32.size - 1) := by
  simp only [reportedCount, UInt32.toNat_ofNat', UInt32.size]
  omega

end VariableBridge.Space
