/-!
# Ranges of code points

A set of characters is given by disjoint ascending ranges of code points, both
ends included. Membership looks at the ranges in order and stops at the first
one that is not below the character.
-/

namespace VariableBridge.Text

/-- A set of characters as ascending ranges of code points. -/
abbrev CodeRanges := List (Nat × Nat)

namespace CodeRanges

/-- Does one of the ascending ranges hold this code point? -/
def covers : CodeRanges → Nat → Bool
  | [], _ => false
  | (first, last) :: rest, code => if code ≤ last then first ≤ code else covers rest code

/-- Is this character in the set? -/
def contains (ranges : CodeRanges) (c : Char) : Bool := covers ranges c.toNat

/-- No code lies in an empty list of ranges, which is where the search through the ranges ends. -/
@[simp] theorem covers_nil (code : Nat) : covers [] code = false := rfl

end CodeRanges

end VariableBridge.Text
