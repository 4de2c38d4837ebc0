import VariableBridge.Number.Arithmetic

/-!
# Sine and cosine

Angles are carried as fixed-point numbers with many more bits than the result
needs. An angle is reduced by whole quarter turns, the power series of the
remainder is summed until its terms vanish, and the total is rounded once to
32 bits.
-/

namespace VariableBridge.Number.Circle

/-- Binary places of the fixed-point numbers. -/
def places : Nat := 256

/-- Binary places that are kept beyond these while a constant is summed. -/
def guardPlaces : Nat := 32

/-- One as a fixed-point number. -/
def one : Int := (1 <<< places : Nat)

/-- Product of two fixed-point numbers, rounded down. -/
def mul (x y : Int) : Int := x * y / one

/-- The inverse tangent of `1 / n` in units of `1 / scale`: the alternating sum of
`scale / ((2 k + 1) n ^ (2 k + 1))`. -/
def arctanInverse (n : Nat) : Nat → Nat → Int → Int
  | 0, _, _ => 0
  | terms + 1, k, power =>
    power / (2 * k + 1) - arctanInverse n terms (k + 1) (power / (n * n))

/-- A quarter turn, by the formula `π / 4 = 4 arctan (1 / 5) - arctan (1 / 239)`. -/
def quarterTurn : Int :=
  let scale : Int := (1 <<< (places + guardPlaces) : Nat)
  let eighth := 4 * arctanInverse 5 80 0 (scale / 5) - arctanInverse 239 40 0 (scale / 239)
  2 * eighth / (1 <<< guardPlaces : Nat)

/-- The terms of the power series of an odd or even function: each term is the one
before it, times the squared angle, over the next two factors, with the sign turned. -/
def series (square : Int) : Nat → Int → Int → Int
  | 0, _, _ => 0
  | terms + 1, n, term =>
    term + series square terms (n + 2) (-(mul term square) / ((n + 1) * (n + 2)))

/-- Terms that are summed; for angles below one quarter turn the rest is below the last place. -/
def seriesTerms : Nat := 48

/-- Sine of a fixed-point angle between zero and a quarter turn. -/
def sinSmall (angle : Int) : Int := series (mul angle angle) seriesTerms 1 angle

/-- Cosine of a fixed-point angle between zero and a quarter turn. -/
def cosSmall (angle : Int) : Int := series (mul angle angle) seriesTerms 0 one

/-- Sine of any fixed-point angle: quarter turns permute the two functions and their signs. -/
def sinFixed (angle : Int) : Int :=
  let rest := angle % quarterTurn
  match (angle / quarterTurn) % 4 with
  | 0 => sinSmall rest
  | 1 => cosSmall rest
  | 2 => -sinSmall rest
  | _ => -cosSmall rest

/-- Cosine of any fixed-point angle. -/
def cosFixed (angle : Int) : Int :=
  let rest := angle % quarterTurn
  match (angle / quarterTurn) % 4 with
  | 0 => cosSmall rest
  | 1 => -sinSmall rest
  | 2 => -cosSmall rest
  | _ => sinSmall rest

/-- A finite magnitude as a fixed-point angle. -/
def ofFinite (negative : Bool) (mantissa : Nat) (exponent : Int) : Int :=
  let scaled := scaleUp (mantissa <<< places) exponent / scaleUp 1 (-exponent)
  if negative then -(scaled : Int) else scaled

/-- The 32-bit number nearest to a fixed-point number. -/
def toSingle (x : Int) : Single := Single.nearest (x < 0) x.natAbs (1 <<< places)

end VariableBridge.Number.Circle

namespace VariableBridge.Number.Single

/-- Sine rounded to 32 bits. Zero is its own sine; infinities have none. -/
def sin (x : Single) : Single :=
  match x.datum with
  | .finite negative m e =>
    if m = 0 then x else Circle.toSingle (Circle.sinFixed (Circle.ofFinite negative m e))
  | _ => Single.ofDatum .nan

/-- Cosine rounded to 32 bits. -/
def cos (x : Single) : Single :=
  match x.datum with
  | .finite negative m e => Circle.toSingle (Circle.cosFixed (Circle.ofFinite negative m e))
  | _ => Single.ofDatum .nan

example : (Single.ofNat 0).cos = Single.ofNat 1 := by decide +kernel
example : (Single.ofNat 1).sin = ⟨0x3F576AA4⟩ := by decide +kernel
example : (Single.ofNat 2).cos = ⟨0xBED51133⟩ := by decide +kernel

end VariableBridge.Number.Single
