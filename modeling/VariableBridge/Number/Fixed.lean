import VariableBridge.Number.Text

/-!
# Fixed decimals

A value is written with a set number of decimals. The exact value is rounded
once, a half going to the even neighbour, and the sign is kept even when all
digits are zero.
-/

namespace VariableBridge.Number

/-- A natural number of units of `10 ^ (-places)` as text. -/
def unitsText (places units : Nat) : String :=
  if places = 0 then natText units
  else (Decimal.mk units (-places)).positional ""

/-- Text of a datum with this many decimals. -/
def fixedText (places : Nat) : Datum → String
  | .nan => "NaN"
  | .infinite negative => if negative then "-inf" else "inf"
  | .finite negative m e =>
    let units := roundHalfEven (scaleUp m e * Nat.pow 10 places) (scaleUp 1 (-e))
    (if negative then "-" else "") ++ unitsText places units

/-- Text of a 32-bit number with this many decimals. -/
def Single.fixedText (places : Nat) (x : Single) : String := Number.fixedText places x.datum

/-- Text of a 64-bit number with this many decimals. -/
def Double.fixedText (places : Nat) (x : Double) : String := Number.fixedText places x.datum

example : (Double.nearest false 1 8).fixedText 2 = "0.12" := by decide +kernel
example : (Double.nearest true 1 10000).fixedText 3 = "-0.000" := by decide +kernel
example : (Double.ofNat 10).fixedText 1 = "10.0" := by decide +kernel

end VariableBridge.Number
