import VariableBridge.Json.Value
import VariableBridge.Number.Arithmetic
import VariableBridge.Number.Text

/-!
# JSON numbers

A float is written with the fewest digits that read back, positionally in the
middle range of sizes and with a power of ten outside of it. Reading takes a
numeral apart into a 64-bit significand and a power of ten: digits that no
longer fit into the significand only move the power. The significand is rounded
to a float first and then scaled by a rounded power of ten, so the result is
not always the nearest float.
-/

namespace VariableBridge.Json

open Number (Single Double Decimal)

/-- How the floats of one width are written. -/
structure FloatStyle where
  /-- Powers of ten of the first digit below this one are written with an exponent. -/
  least : Int
  /-- Powers of ten of the first digit above this one are written with an exponent. -/
  greatest : Int
  deriving Repr

/-- 32-bit floats are written positionally from a millionth to below ten million millions. -/
def singleStyle : FloatStyle := ⟨-6, 12⟩

/-- 64-bit floats are written positionally from a hundred thousandth to below `10 ^ 16`. -/
def doubleStyle : FloatStyle := ⟨-5, 15⟩

/-- The positional numeral of a decimal; a whole number gets a zero behind its point. -/
def positionalNumeral (negative : Bool) (d : Decimal) : Numeral :=
  match d.parts with
  | (digits, []) => ⟨negative, digits, ['0'], none⟩
  | (digits, fraction) => ⟨negative, digits, fraction, none⟩

/-- The numeral of a decimal with one digit before the point and a power of ten. -/
def scientificNumeral (negative : Bool) (d : Decimal) : Numeral :=
  ⟨negative, d.digits.take 1, d.digits.drop 1,
    some (d.leadingExponent < 0, Nat.toDigits 10 d.leadingExponent.natAbs)⟩

/-- The numeral of a decimal. -/
def FloatStyle.numeral (s : FloatStyle) (negative : Bool) (d : Decimal) : Numeral :=
  if d.coefficient = 0 ∨ (s.least ≤ d.leadingExponent ∧ d.leadingExponent ≤ s.greatest) then
    positionalNumeral negative d
  else scientificNumeral negative d

/-- The value of a datum; what is not finite becomes nothing. -/
def FloatStyle.value (s : FloatStyle) (f : Number.BinaryFormat) : Number.Datum → Value
  | .finite negative m e => .number (s.numeral negative (Number.shortestDecimal f .even m e))
  | _ => .null

/-- The value of a 32-bit float. -/
def ofSingle (x : Single) : Value := singleStyle.value .binary32 x.datum

/-- The value of a 64-bit float. -/
def ofDouble (x : Double) : Value := doubleStyle.value .binary64 x.datum

/-- The first number that does not fit into a significand. -/
def significandBound : Nat := UInt64.size

/-- A significand extended by digits for as long as it fits, and the number of digits that
are left over. -/
def takeDigits (significand : Nat) : List Char → Nat × Nat
  | [] => (significand, 0)
  | c :: rest =>
    let next := significand * 10 + (c.toNat - '0'.toNat)
    if significandBound ≤ next then (significand, rest.length + 1) else takeDigits next rest

/-- A significand and a power of ten. -/
structure Scaled where
  /-- The significand. -/
  significand : Nat
  /-- The power of ten. -/
  power : Int
  deriving DecidableEq, Repr

/-- The digits of a numeral as a significand and the power of ten that they imply. -/
def Numeral.scaled (n : Numeral) : Scaled :=
  let (whole, skipped) := takeDigits 0 n.whole
  let (significand, ignored) := takeDigits whole n.fraction
  ⟨significand, (skipped : Int) - ((n.fraction.length : Int) - ignored)⟩

/-- The first power of ten whose digits are not counted any more. -/
def powerBound : Nat := 2147483648

/-- The least power of ten that can be told from smaller ones. -/
def leastPower : Int := -2147483648

/-- The greatest power of ten that can be told from larger ones. -/
def greatestPower : Int := 2147483647

/-- The greatest power of ten that a float can be scaled by in one step. -/
def largestStep : Nat := 308

/-- A rounded power of ten. -/
def powerOfTen (n : Nat) : Double := Double.ofNat (Nat.pow 10 n)

/-- Divide by the largest step until the power can be divided by at once. The power
grows towards zero at each step, and a float that has become zero stays zero. -/
def scaleDown : Nat → Double → Nat → Double
  | 0, x, _ => x
  | steps + 1, x, power =>
    if power ≤ largestStep then x / powerOfTen power
    else if x = Double.ofNat 0 then x
    else scaleDown steps (x / powerOfTen largestStep) (power - largestStep)

/-- Steps after which every significand has become zero. -/
def downSteps : Nat := 8

/-- Scale a significand up or down. A result beyond all floats is an error. -/
def scale (significand : Nat) (power : Int) : Option Double :=
  let x := Double.ofNat significand
  if 0 ≤ power then
    if largestStep < power.toNat then if significand = 0 then some x else none
    else
      let scaled := x * powerOfTen power.toNat
      if scaled.isFinite then some scaled else none
  else some (scaleDown downSteps x power.natAbs)

/-- A float with its sign turned if it is to be negative. -/
def withSign (negative : Bool) (x : Double) : Double :=
  if negative then ⟨x.bits ^^^ 0x8000000000000000⟩ else x

/-- The power of ten of a numeral together with the one that its digits imply. -/
def clampedPower (implied : Int) (negative : Bool) (written : Nat) : Int :=
  max leastPower (min greatestPower (if negative then implied - written else implied + written))

/-- The 64-bit float of a numeral; a numeral beyond all floats has none. -/
def Numeral.toDouble? (n : Numeral) : Option Double :=
  let ⟨significand, implied⟩ := n.scaled
  match n.power with
  | none => (scale significand implied).map (withSign n.negative)
  | some (negative, digits) =>
    let written := Number.digitsValue digits
    if powerBound ≤ written then
      if significand = 0 ∨ negative then some (withSign n.negative (Double.ofNat 0)) else none
    else (scale significand (clampedPower implied negative written)).map (withSign n.negative)

/-- Is the numeral an integer that fits into 64 bits, with or without sign? Only such a
numeral is rounded to 32 bits in one step. -/
def Numeral.isWordInteger (n : Numeral) : Bool :=
  match n.toInt? with
  | some value => -9223372036854775808 ≤ value && value < UInt64.size
  | none => false

/-- The 32-bit float of a numeral: integers that fit into 64 bits are rounded once, all
others by way of a 64-bit float. -/
def Numeral.toSingle? (n : Numeral) : Option Single :=
  match n.isWordInteger, n.toInt? with
  | true, some value => some (Single.nearest (value < 0) value.natAbs 1)
  | _, _ => n.toDouble?.map Double.toSingle

end VariableBridge.Json
