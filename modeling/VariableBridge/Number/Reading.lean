import VariableBridge.Number.Binary

/-!
# Reading decimals

A decimal numeral denotes an exact ratio and is read as the nearest binary
number. Numerals far beyond the range of the format are settled by their
magnitude alone, so an exponent may have any size.
-/

namespace VariableBridge.Number

/-- Value of a list of decimal digits, most significant first. -/
def digitsValue (digits : List Char) : Nat := Nat.ofDigitChars 10 digits 0

/-- Beyond this power of ten every magnitude is infinite, and below its
negative every magnitude is zero, in both formats. -/
def decimalHorizon : Int := 400

/-- The 64-bit number nearest to `± coefficient * 10 ^ exponent`. -/
def Double.ofDecimal (negative : Bool) (coefficient : Nat) (exponent : Int) : Double :=
  let size : Int := (Nat.toDigits 10 coefficient).length
  if coefficient = 0 then Double.nearest negative 0 1
  else if decimalHorizon < size + exponent then Double.ofDatum (.infinite negative)
  else if size + exponent < -decimalHorizon then Double.nearest negative 0 1
  else
    Double.nearest negative (coefficient * Nat.pow 10 exponent.toNat)
      (Nat.pow 10 (-exponent).toNat)

example : Double.ofDecimal false 1 (-1) = Double.nearest false 1 10 := by decide +kernel
example : Double.ofDecimal false 49 (-325) = ⟨1⟩ := by decide +kernel
example : Double.ofDecimal true 1 309 = Double.ofDatum (.infinite true) := by decide +kernel

end VariableBridge.Number
