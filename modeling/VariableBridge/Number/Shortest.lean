import VariableBridge.Number.Binary

/-!
# Shortest decimals

The decimal chosen for a finite value is the one with the fewest digits among
those that round back to it; of two such decimals the nearer one is taken. The
search walks down the powers of ten and tries the two neighbours of the value
on each grid, all in exact natural arithmetic. An exact tie between the two
neighbours is decided by the caller.
-/

namespace VariableBridge.Number

/-- The number `coefficient * 10 ^ exponent`. -/
structure Decimal where
  /-- The digits, read as one number. -/
  coefficient : Nat
  /-- Power of ten of the last digit. -/
  exponent : Int
  deriving DecidableEq, Repr

/-- Which of two equally near neighbours is taken. -/
inductive Tie where
  /-- The larger one. -/
  | up
  /-- The even one. -/
  | even
  deriving DecidableEq, Repr

/-- The values that round to one binary number, in quarters of the distance to
its upper neighbour: the number itself lies at `centre`. -/
structure RoundingInterval where
  /-- Lower end. -/
  low : Nat
  /-- The number itself. -/
  centre : Nat
  /-- Upper end. -/
  high : Nat
  /-- Do the ends themselves round to the number? -/
  closed : Bool
  /-- Power of two of one quarter. -/
  exponent : Int
  deriving DecidableEq, Repr

namespace RoundingInterval

/-- The interval of the finite magnitude `mantissa * 2 ^ exponent`. Below a power
of two the neighbours lie closer, so the lower end is nearer. -/
def ofFinite (f : BinaryFormat) (mantissa : Nat) (exponent : Int) : RoundingInterval :=
  let narrow := mantissa = 1 <<< f.fractionBits ∧ f.floorExponent < exponent
  { low := if narrow then 4 * mantissa - 1 else 4 * mantissa - 2
    centre := 4 * mantissa
    high := 4 * mantissa + 2
    closed := mantissa % 2 = 0
    exponent := exponent - 2 }

/-- Does a point between the ends, given in the same unit, round to the number? -/
def contains (i : RoundingInterval) (unit point : Nat) : Bool :=
  if i.closed then i.low * unit ≤ point && point ≤ i.high * unit
  else i.low * unit < point && point < i.high * unit

/-- The better of the two neighbours of the centre on the grid of the power
`10 ^ k`, if one of them rounds to the number. -/
def onGrid (i : RoundingInterval) (tie : Tie) (k : Int) : Option Nat :=
  let unit := scaleUp 1 i.exponent * Nat.pow 10 (-k).toNat
  let step := Nat.pow 10 k.toNat * scaleUp 1 (-i.exponent)
  let centre := i.centre * unit
  let below := centre / step
  let above := below + 1
  match i.contains unit (below * step), i.contains unit (above * step) with
  | false, false => none
  | true, false => some below
  | false, true => some above
  | true, true =>
    let toBelow := centre - below * step
    let toAbove := above * step - centre
    if toBelow < toAbove then some below
    else if toAbove < toBelow then some above
    else match tie with
      | .up => some above
      | .even => if below % 2 = 0 then some below else some above

/-- The first hit on the grids `k`, `k - 1`, and so on. -/
def search (i : RoundingInterval) (tie : Tie) : Nat → Int → Decimal
  | 0, k => ⟨0, k⟩
  | tries + 1, k =>
    match i.onGrid tie k with
    | some coefficient => ⟨coefficient, k⟩
    | none => search i tie tries (k - 1)

end RoundingInterval

/-- A power of ten above every magnitude with this leading binary exponent. -/
def decimalCeiling (binaryExponent : Int) : Int := (binaryExponent + 1) * 30103 / 100000 + 1

/-- Digits of the widest shortest decimal, and room for the estimate of the first grid. -/
def shortestSearchSpan : Nat := 24

/-- The shortest decimal of a positive magnitude `mantissa * 2 ^ exponent`; zero has
the single digit 0. -/
def shortestDecimal (f : BinaryFormat) (tie : Tie) (mantissa : Nat) (exponent : Int) : Decimal :=
  if mantissa = 0 then ⟨0, 0⟩
  else
    (RoundingInterval.ofFinite f mantissa exponent).search tie shortestSearchSpan
      (decimalCeiling (Nat.log2 mantissa + exponent))

example : shortestDecimal .binary64 .up 0x1999999999999A (-56) = ⟨1, -1⟩ := by decide +kernel
example : shortestDecimal .binary64 .up 1 (-1074) = ⟨5, -324⟩ := by decide +kernel
example : shortestDecimal .binary32 .even 0x800001 0 = ⟨8388609, 0⟩ := by decide +kernel

end VariableBridge.Number
