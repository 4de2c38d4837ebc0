/-!
# Binary interchange formats

A floating-point code is a natural number whose bits are a sign, an exponent
and a fraction. Decoding is exact: a finite code is a mantissa times a power
of two. Encoding takes an exact ratio and picks the nearest code, an even
mantissa winning a tie; values beyond the largest finite one become infinite.
Nothing here uses machine floats, so all of it can be evaluated in proofs.
-/

namespace VariableBridge.Number

/-- The widths that make up a binary interchange format. -/
structure BinaryFormat where
  /-- Stored bits of the mantissa, the leading one not counted. -/
  fractionBits : Nat
  /-- Bits of the exponent field. -/
  exponentBits : Nat
  deriving DecidableEq, Repr

namespace BinaryFormat

/-- The 32-bit format. -/
def binary32 : BinaryFormat := ⟨23, 8⟩

/-- The 64-bit format. -/
def binary64 : BinaryFormat := ⟨52, 11⟩

/-- Exponent of the last mantissa bit of the least positive value. -/
def floorExponent (f : BinaryFormat) : Int :=
  2 - (1 <<< (f.exponentBits - 1) : Nat) - f.fractionBits

/-- Code of positive infinity; every finite magnitude is below it. -/
def infinityCode (f : BinaryFormat) : Nat := ((1 <<< f.exponentBits) - 1) <<< f.fractionBits

/-- Weight of the sign bit. -/
def signCode (f : BinaryFormat) : Nat := 1 <<< (f.fractionBits + f.exponentBits)

/-- The quiet NaN that arithmetic produces. -/
def nanCode (f : BinaryFormat) : Nat := f.infinityCode + (1 <<< (f.fractionBits - 1))

end BinaryFormat

/-- What a code stands for. -/
inductive Datum where
  /-- No number. -/
  | nan
  /-- An infinity with its sign. -/
  | infinite (negative : Bool)
  /-- The number `mantissa * 2 ^ exponent` with its sign; zero keeps its sign. -/
  | finite (negative : Bool) (mantissa : Nat) (exponent : Int)
  deriving DecidableEq, Repr

/-- A nonnegative quotient rounded to a natural number, a half going to the even neighbour. -/
def roundHalfEven (num den : Nat) : Nat :=
  let q := num / den
  let r := 2 * (num % den)
  if r < den then q else if den < r then q + 1 else q + q % 2

/-- Numerator of `num * 2 ^ e` over the denominator `2 ^ (-e)`. -/
def scaleUp (num : Nat) (e : Int) : Nat := num <<< e.toNat

namespace BinaryFormat

/-- Read a code. Bits beyond the sign are ignored. -/
def decode (f : BinaryFormat) (code : Nat) : Datum :=
  let negative := code / f.signCode % 2 == 1
  let magnitude := code % f.signCode
  if f.infinityCode < magnitude then .nan
  else if magnitude = f.infinityCode then .infinite negative
  else
    let field := magnitude >>> f.fractionBits
    let fraction := magnitude % (1 <<< f.fractionBits)
    if field = 0 then .finite negative fraction f.floorExponent
    else .finite negative ((1 <<< f.fractionBits) + fraction) (f.floorExponent + (field - 1 : Nat))

/-- The magnitude code nearest to `num / den`, for a positive denominator.
The exponent is chosen so that the rounded mantissa keeps all its bits; a
carry out of the mantissa moves to the next exponent by itself. -/
def nearestMagnitude (f : BinaryFormat) (num den : Nat) : Nat :=
  if num = 0 then 0
  else
    let rough : Int := (Nat.log2 num : Int) - Nat.log2 den - f.fractionBits - 1
    let start := max rough f.floorExponent
    let wide := scaleUp num (-start) / scaleUp den start
    let exponent := if 1 <<< (f.fractionBits + 1) ≤ wide then start + 1 else start
    let mantissa := roundHalfEven (scaleUp num (-exponent)) (scaleUp den exponent)
    min f.infinityCode (((exponent - f.floorExponent).toNat <<< f.fractionBits) + mantissa)

/-- A magnitude code with a sign. -/
def withSign (f : BinaryFormat) (negative : Bool) (magnitude : Nat) : Nat :=
  if negative then f.signCode + magnitude else magnitude

/-- The code nearest to `± num / den`, for a positive denominator. -/
def nearest (f : BinaryFormat) (negative : Bool) (num den : Nat) : Nat :=
  f.withSign negative (f.nearestMagnitude num den)

/-- The code of a datum; a finite one is rounded if the format is too narrow for it. -/
def encode (f : BinaryFormat) : Datum → Nat
  | .nan => f.nanCode
  | .infinite negative => f.withSign negative f.infinityCode
  | .finite negative m e => f.nearest negative (scaleUp m e) (scaleUp 1 (-e))

end BinaryFormat

/-- A 32-bit floating-point value, kept as its bits. -/
structure Single where
  /-- Sign, exponent and fraction. -/
  bits : UInt32
  deriving DecidableEq, Repr, Inhabited

/-- A 64-bit floating-point value, kept as its bits. -/
structure Double where
  /-- Sign, exponent and fraction. -/
  bits : UInt64
  deriving DecidableEq, Repr, Inhabited

namespace Single

/-- The value with this code. -/
def ofCode (code : Nat) : Single := ⟨UInt32.ofNat code⟩

/-- What the bits stand for. -/
def datum (x : Single) : Datum := BinaryFormat.binary32.decode x.bits.toNat

/-- The value nearest to `± num / den`. -/
def nearest (negative : Bool) (num den : Nat) : Single :=
  ofCode (BinaryFormat.binary32.nearest negative num den)

/-- The value of a datum. -/
def ofDatum (d : Datum) : Single := ofCode (BinaryFormat.binary32.encode d)

/-- The value nearest to a natural number. -/
def ofNat (n : Nat) : Single := nearest false n 1

end Single

namespace Double

/-- The value with this code. -/
def ofCode (code : Nat) : Double := ⟨UInt64.ofNat code⟩

/-- What the bits stand for. -/
def datum (x : Double) : Datum := BinaryFormat.binary64.decode x.bits.toNat

/-- The value nearest to `± num / den`. -/
def nearest (negative : Bool) (num den : Nat) : Double :=
  ofCode (BinaryFormat.binary64.nearest negative num den)

/-- The value of a datum. -/
def ofDatum (d : Datum) : Double := ofCode (BinaryFormat.binary64.encode d)

/-- The value nearest to a natural number. -/
def ofNat (n : Nat) : Double := nearest false n 1

/-- The 32-bit value nearest to this one. -/
def toSingle (x : Double) : Single := Single.ofDatum x.datum

/-- Is it a number with a finite magnitude? -/
def isFinite (x : Double) : Bool :=
  match x.datum with
  | .finite .. => true
  | _ => false

/-- Is it a finite number that is not below zero? Negative zero counts. -/
def isFiniteNonneg (x : Double) : Bool :=
  match x.datum with
  | .finite negative m _ => !negative || m == 0
  | _ => false

/-- Is it a finite number above zero? -/
def isFinitePositive (x : Double) : Bool :=
  match x.datum with
  | .finite negative m _ => !negative && m != 0
  | _ => false

/-- Equality of numbers: NaN equals nothing and the two zeros are equal. -/
def sameNumber (x y : Double) : Bool :=
  match x.datum, y.datum with
  | .nan, _ => false
  | _, .nan => false
  | .finite _ 0 _, .finite _ 0 _ => true
  | _, _ => x == y

end Double

example : Double.ofNat 1 = ⟨0x3FF0000000000000⟩ := by decide +kernel
example : Double.nearest false 1 10 = ⟨0x3FB999999999999A⟩ := by decide +kernel
example : Double.toSingle ⟨0x47EFFFFFF0000000⟩ = ⟨0x7F800000⟩ := by decide +kernel

end VariableBridge.Number
