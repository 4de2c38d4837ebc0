import VariableBridge.Number.Binary

/-!
# Rounded arithmetic

Sums, products and quotients are formed exactly and then rounded once. The
special cases are those of the interchange standard: an invalid operation is
NaN, a nonzero number over zero is infinite, and an exact zero sum of opposite
signs is positive.
-/

namespace VariableBridge.Number

namespace BinaryFormat

/-- The code of an exact signed quotient `± num / den`, with `den` positive. -/
private def quotientCode (f : BinaryFormat) (negative : Bool) (m₁ : Nat) (e₁ : Int)
    (m₂ : Nat) (e₂ : Int) : Nat :=
  f.nearest negative (scaleUp m₁ (e₁ - e₂)) (scaleUp m₂ (e₂ - e₁))

/-- The code of the product. -/
def mulCode (f : BinaryFormat) : Datum → Datum → Nat
  | .nan, _ => f.nanCode
  | _, .nan => f.nanCode
  | .infinite s, .infinite t => f.withSign (s ^^ t) f.infinityCode
  | .infinite s, .finite t m _ => if m = 0 then f.nanCode else f.withSign (s ^^ t) f.infinityCode
  | .finite s m _, .infinite t => if m = 0 then f.nanCode else f.withSign (s ^^ t) f.infinityCode
  | .finite s m e, .finite t n d => f.encode (.finite (s ^^ t) (m * n) (e + d))

/-- The code of the quotient. -/
def divCode (f : BinaryFormat) : Datum → Datum → Nat
  | .nan, _ => f.nanCode
  | _, .nan => f.nanCode
  | .infinite _, .infinite _ => f.nanCode
  | .infinite s, .finite t _ _ => f.withSign (s ^^ t) f.infinityCode
  | .finite s _ _, .infinite t => f.withSign (s ^^ t) 0
  | .finite s m e, .finite t n d =>
    if n = 0 then
      if m = 0 then f.nanCode else f.withSign (s ^^ t) f.infinityCode
    else f.quotientCode (s ^^ t) m e n d

/-- A magnitude with a sign as an integer. -/
private def signedMantissa (negative : Bool) (m : Nat) : Int := if negative then -(m : Int) else m

/-- The code of the sum. -/
def addCode (f : BinaryFormat) : Datum → Datum → Nat
  | .nan, _ => f.nanCode
  | _, .nan => f.nanCode
  | .infinite s, .infinite t => if s = t then f.withSign s f.infinityCode else f.nanCode
  | .infinite s, .finite .. => f.withSign s f.infinityCode
  | .finite .., .infinite t => f.withSign t f.infinityCode
  | .finite s m e, .finite t n d =>
    let low := min e d
    let total := signedMantissa s (scaleUp m (e - low)) + signedMantissa t (scaleUp n (d - low))
    let negative := if total = 0 then s && t else total < 0
    f.encode (.finite negative total.natAbs low)

end BinaryFormat

namespace Single

/-- Product rounded to 32 bits. -/
def mul (x y : Single) : Single := ofCode (BinaryFormat.binary32.mulCode x.datum y.datum)

/-- Quotient rounded to 32 bits. -/
def div (x y : Single) : Single := ofCode (BinaryFormat.binary32.divCode x.datum y.datum)

/-- Sum rounded to 32 bits. -/
def add (x y : Single) : Single := ofCode (BinaryFormat.binary32.addCode x.datum y.datum)

instance : Mul Single := ⟨mul⟩
instance : Div Single := ⟨div⟩
instance : Add Single := ⟨add⟩

end Single

namespace Double

/-- Product rounded to 64 bits. -/
def mul (x y : Double) : Double := ofCode (BinaryFormat.binary64.mulCode x.datum y.datum)

/-- Quotient rounded to 64 bits. -/
def div (x y : Double) : Double := ofCode (BinaryFormat.binary64.divCode x.datum y.datum)

instance : Mul Double := ⟨mul⟩
instance : Div Double := ⟨div⟩

end Double

example : Double.ofNat 48000 / Double.ofNat 4800 = Double.ofNat 10 := by decide +kernel
example : Single.ofNat 1 / Single.ofNat 0 = ⟨0x7F800000⟩ := by decide +kernel
example : Single.nearest false 1 10 + Single.nearest true 1 10 = Single.ofNat 0 := by decide +kernel
example : Double.ofNat 1 / Double.ofNat 3 = ⟨0x3FD5555555555555⟩ := by decide +kernel

end VariableBridge.Number
