import VariableBridge.Number.Text

/-!
# Type tags

A variable carries a tag that names its element type. Tags travel as numeric
codes; a code without a name of its own is kept, so that it can be reported.
-/

namespace VariableBridge

open Number (natText)

/-- The element type of a variable. -/
inductive TypeTag where
  /-- Signed 32-bit integers. -/
  | int32
  /-- 32-bit floats. -/
  | float32
  /-- 64-bit floats. -/
  | float64
  /-- 32-bit floats over a real domain. -/
  | real
  /-- Pairs of 32-bit floats. -/
  | complex
  /-- Text. -/
  | text
  /-- A type without a name, by its code. -/
  | other (code : UInt32)
  deriving DecidableEq, Repr, Inhabited

namespace TypeTag

/-- The tag with a numeric code. -/
def ofCode (code : UInt32) : TypeTag :=
  if code = 1 then .text
  else if code = 2 then .int32
  else if code = 3 then .real
  else if code = 4 then .float32
  else if code = 5 then .float64
  else if code = 6 then .complex
  else .other code

/-- The numeric code of a tag. -/
def code : TypeTag → UInt32
  | .text => 1
  | .int32 => 2
  | .real => 3
  | .float32 => 4
  | .float64 => 5
  | .complex => 6
  | .other code => code

/-- Channels that one element fills: a complex number has two parts. -/
def channelsPerElement : TypeTag → UInt32
  | .complex => 2
  | _ => 1

/-- Words of memory that one element takes. The memory of texts and of types without a name is
never read as elements. -/
def wordsPerElement : TypeTag → Nat
  | .int32 => 1
  | .float32 => 1
  | .float64 => 2
  | .real => 1
  | .complex => 2
  | .text => 0
  | .other _ => 0

/-- The name of a tag in messages. -/
def name : TypeTag → String
  | .int32 => "int32"
  | .float32 => "float32"
  | .float64 => "float64"
  | .real => "real"
  | .complex => "complex"
  | .text => "text"
  | .other code => "type code " ++ natText code.toNat

/-- Every code is kept by its tag, those of tags that are not known included. -/
@[simp] theorem code_ofCode (c : UInt32) : (ofCode c).code = c := by
  unfold ofCode
  split
  · next h => simp [code, h]
  split
  · next h => simp [code, h]
  split
  · next h => simp [code, h]
  split
  · next h => simp [code, h]
  split
  · next h => simp [code, h]
  split
  · next h => simp [code, h]
  · rfl

end TypeTag

/-- Product of two 32-bit counts; a product that does not fit is the greatest count. -/
def saturatingMul (a b : UInt32) : UInt32 :=
  UInt32.ofNat (min (a.toNat * b.toNat) (UInt32.size - 1))

/-- The product of two counts is exact as long as 32 bits can hold it, and the greatest 32-bit
number otherwise. -/
theorem toNat_saturatingMul (a b : UInt32) :
    (saturatingMul a b).toNat = min (a.toNat * b.toNat) (UInt32.size - 1) := by
  simp only [saturatingMul, UInt32.toNat_ofNat', UInt32.size]
  omega

end VariableBridge
