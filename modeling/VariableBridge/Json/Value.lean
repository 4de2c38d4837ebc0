import VariableBridge.Number.Reading

/-!
# JSON values

A JSON text is read into a tree before anything is made of it. Numbers are kept
as they are written, since a numeral means different things for an integer and
a float, and a string whose escapes form no text is kept as such, since only
some places care. Members of an object stay in order and may repeat a name.
-/

namespace VariableBridge.Json

/-- A numeral as it is written. -/
structure Numeral where
  /-- Does it begin with a minus sign? -/
  negative : Bool
  /-- Digits before the point. -/
  whole : List Char
  /-- Digits behind the point; empty without a point. -/
  fraction : List Char
  /-- Sign and digits of the power of ten, if one is written; true is a minus sign. -/
  power : Option (Bool × List Char)
  deriving DecidableEq, Repr, Inhabited

/-- A JSON value. -/
inductive Value where
  /-- Nothing. -/
  | null
  /-- A truth value. -/
  | bool (value : Bool)
  /-- A number. -/
  | number (numeral : Numeral)
  /-- A string; its escapes may form no text. -/
  | string (content : Option String)
  /-- An array. -/
  | array (elements : List Value)
  /-- An object. -/
  | object (members : List (Option String × Value))
  deriving Repr, Inhabited

namespace Numeral

/-- The numeral of a natural number. -/
def ofNat (n : Nat) : Numeral := ⟨false, Nat.toDigits 10 n, [], none⟩

/-- The numeral of an integer. -/
def ofInt (n : Int) : Numeral := ⟨n < 0, Nat.toDigits 10 n.natAbs, [], none⟩

/-- Is it written without a fraction and a power of ten? -/
def isInteger (n : Numeral) : Bool := n.fraction.isEmpty && n.power.isNone

/-- The natural number that is written, if it is written as one. A minus sign is never
part of a natural number, not even before zero. -/
def toNat? (n : Numeral) : Option Nat :=
  if n.isInteger && !n.negative then some (Number.digitsValue n.whole) else none

/-- The integer that is written, if it is written as one; a zero with a minus sign is none. -/
def toInt? (n : Numeral) : Option Int :=
  if n.isInteger then
    let magnitude := Number.digitsValue n.whole
    if n.negative then if magnitude = 0 then none else some (-(magnitude : Int))
    else some magnitude
  else none

/-- A natural number that was made a number of JSON is read back as itself, however large it is. -/
@[simp] theorem toNat?_ofNat (n : Nat) : (ofNat n).toNat? = some n := by
  simp [toNat?, ofNat, isInteger, Number.digitsValue]

end Numeral

/-- The value of a string with this text. -/
def Value.text (s : String) : Value := .string (some s)

/-- The value of an object with these members. -/
def Value.record (members : List (String × Value)) : Value :=
  .object (members.map fun m => (some m.1, m.2))

end VariableBridge.Json
