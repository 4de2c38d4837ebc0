import VariableBridge.Stream.Message
import VariableBridge.TypeTag

/-!
# Sample layouts

A layout says how the memory of a variable becomes the values of a sample.
Texts and types without a name have no layout and cannot be sent.
-/

namespace VariableBridge

/-- The ways in which memory becomes values. -/
inductive Layout where
  /-- One integer for each element. -/
  | int32
  /-- One 32-bit float for each element. -/
  | float32
  /-- One 64-bit float for each element. -/
  | float64
  /-- One 32-bit float for each element of a real domain. -/
  | real
  /-- The real and the imaginary part of each element in turn. -/
  | complex
  deriving DecidableEq, Repr, Inhabited

namespace Layout

/-- The layout of a type, if it can be sent. -/
def ofTag : TypeTag → Option Layout
  | .int32 => some .int32
  | .float32 => some .float32
  | .float64 => some .float64
  | .real => some .real
  | .complex => some .complex
  | .text => none
  | .other _ => none

/-- The type that a layout belongs to. -/
def tag : Layout → TypeTag
  | .int32 => .int32
  | .float32 => .float32
  | .float64 => .float64
  | .real => .real
  | .complex => .complex

/-- Format of the values. -/
def channelFormat : Layout → ChannelFormat
  | .int32 => .int32
  | .float64 => .double64
  | .float32 => .float32
  | .real => .float32
  | .complex => .float32

/-- Label of the type in the metadata of a stream. -/
def label : Layout → String
  | .int32 => "VAR_INT"
  | .float32 => "VAR_FLOAT"
  | .float64 => "VAR_DOUBLE"
  | .real => "VAR_REAL"
  | .complex => "VAR_COMPLEX"

/-- Channels that this many elements fill. -/
def channels (l : Layout) (count : UInt32) : UInt32 := saturatingMul count l.tag.channelsPerElement

/-- A tag has a layout exactly if it is the tag of that layout, so no two layouts share a tag. -/
theorem ofTag_eq_some_iff {t : TypeTag} {l : Layout} : ofTag t = some l ↔ l.tag = t := by
  cases t <;> cases l <;> simp [ofTag, tag]

/-- The tag of a layout has this layout, so that an adapter that was built for a type can be built
for it again. -/
@[simp] theorem ofTag_tag (l : Layout) : ofTag l.tag = some l := ofTag_eq_some_iff.mpr rfl

end Layout

end VariableBridge
