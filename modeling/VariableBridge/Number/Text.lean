import VariableBridge.Number.Shortest

/-!
# Number texts

A finite value is written from its shortest decimal, with zeros in the places
between the digits and the point, whatever its size.
-/

namespace VariableBridge.Number

/-- Decimal digits of a natural number. -/
def natText (n : Nat) : String := String.ofList (Nat.toDigits 10 n)

/-- Decimal digits of an integer, after its sign. -/
def intText : Int → String
  | .ofNat n => natText n
  | .negSucc n => "-" ++ natText (n + 1)

namespace Decimal

/-- The digits of the coefficient. -/
def digits (d : Decimal) : List Char := Nat.toDigits 10 d.coefficient

/-- Power of ten of the first digit. -/
def leadingExponent (d : Decimal) : Int := d.exponent + d.digits.length - 1

/-- The digits before and behind the point, with zeros in the places that the
coefficient does not reach. -/
def parts (d : Decimal) : List Char × List Char :=
  if 0 ≤ d.exponent then (d.digits ++ List.replicate d.exponent.toNat '0', [])
  else
    let places := (-d.exponent).toNat
    let padded := List.replicate (places + 1 - d.digits.length) '0' ++ d.digits
    padded.splitAt (padded.length - places)

/-- Positional text; `whole` is what stands after a number without a fraction. -/
def positional (d : Decimal) (whole : String) : String :=
  match d.parts with
  | (digits, []) => String.ofList digits ++ whole
  | (digits, fraction) => String.ofList digits ++ "." ++ String.ofList fraction

end Decimal

/-- How numbers are written positionally. -/
structure NumberStyle where
  /-- What follows a number without a fraction. -/
  whole : String
  /-- Text of what is not a number. -/
  nan : String
  /-- Text of positive infinity. -/
  infinity : String
  deriving Repr

namespace NumberStyle

/-- The text of a datum of the format `f`; of two equally near shortest decimals the
larger one is taken. -/
def render (s : NumberStyle) (f : BinaryFormat) : Datum → String
  | .nan => s.nan
  | .infinite negative => (if negative then "-" else "") ++ s.infinity
  | .finite negative m e =>
    (if negative then "-" else "") ++ (shortestDecimal f .up m e).positional s.whole

/-- Plain text: no point in whole numbers. -/
def plain : NumberStyle := ⟨"", "NaN", "inf"⟩

end NumberStyle

/-- Plain text of a 64-bit number. -/
def Double.plainText (x : Double) : String := NumberStyle.plain.render .binary64 x.datum

example : (Double.nearest true 1 10).plainText = "-0.1" := by decide +kernel
example : (Double.ofNat (Nat.pow 10 21)).plainText = "1000000000000000000000" := by decide +kernel
example : (Double.nearest true 0 1).plainText = "-0" := by decide +kernel

end VariableBridge.Number
