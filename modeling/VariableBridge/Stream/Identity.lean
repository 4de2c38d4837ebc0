import VariableBridge.Stream.Info

/-!
# Identity texts

An identity is written as 32 hexadecimal digits in five groups. It may also be
read without the hyphens, in braces or behind the prefix of its name space, with
digits and letters of either case.
-/

namespace VariableBridge.StreamId

/-- Lengths of the groups of digits. -/
def groupLengths : List Nat := [8, 4, 4, 4, 12]

/-- Put hyphens between groups of these lengths. -/
def hyphenate : List Nat → List Char → List Char
  | [], _ => []
  | [n], cs => cs.take n
  | n :: rest, cs => cs.take n ++ '-' :: hyphenate rest (cs.drop n)

/-- How many identities there are. -/
def identityCount : Nat := 1 <<< 128

/-- The text of an identity. -/
def write (id : StreamId) : String :=
  let digits := Nat.toDigits 16 (id.number % identityCount)
  String.ofList (hyphenate groupLengths (List.replicate (32 - digits.length) '0' ++ digits))

/-- Value of a hexadecimal digit of either case. -/
def digitValue (c : Char) : Option Nat :=
  if c.isDigit then some (c.toNat - '0'.toNat)
  else if 'a' ≤ c ∧ c ≤ 'f' then some (c.toNat - 'a'.toNat + 10)
  else if 'A' ≤ c ∧ c ≤ 'F' then some (c.toNat - 'A'.toNat + 10)
  else none

/-- The number of hexadecimal digits. -/
def readDigits (cs : List Char) : Option Nat :=
  cs.foldlM (fun n c => (digitValue c).map (16 * n + ·)) 0

/-- Digits of groups of these lengths between hyphens. -/
def ungroup : List Nat → List Char → Option (List Char)
  | [], _ => none
  | [n], cs => if cs.length = n then some cs else none
  | n :: rest, cs =>
    match cs.drop n with
    | '-' :: after => (ungroup rest after).map (cs.take n ++ ·)
    | _ => none

/-- What stands in front of an identity in its name space, in letters of either case. -/
def spacePrefix : List Char := ['u', 'r', 'n', ':', 'u', 'u', 'i', 'd', ':']

/-- What the bare form of an identity looks like inside of the longer forms. -/
def unwrap (cs : List Char) : List Char :=
  match cs with
  | '\x7b' :: rest => if rest.getLast? = some '\x7d' ∧ cs.length = 38 then rest.dropLast else cs
  | _ =>
    let (front, rest) := cs.splitAt spacePrefix.length
    if front.map Char.toLower = spacePrefix ∧ cs.length = 45 then rest else cs

/-- The identity of a text. -/
def read (text : String) : Option StreamId :=
  let cs := text.toList
  if cs.length = 32 then (readDigits cs).map StreamId.mk
  else do
    let digits ← ungroup groupLengths (unwrap cs)
    let number ← readDigits digits
    return ⟨number⟩

example : (read "67E55044-10B1-426F-9247-BB680E5FE0C8").map write =
    some "67e55044-10b1-426f-9247-bb680e5fe0c8" := by decide +kernel
example : (read "Urn:UUID:67E55044-10B1-426F-9247-BB680E5FE0C8").map write =
    some "67e55044-10b1-426f-9247-bb680e5fe0c8" := by decide +kernel

end VariableBridge.StreamId
