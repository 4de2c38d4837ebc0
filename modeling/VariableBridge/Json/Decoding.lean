import VariableBridge.Json.Number

/-!
# Decoding JSON values

A record is an object with named members or an array of the members in their
order. Unknown names are passed over, a known name given twice is an error. A
choice is a name, or an object whose only member has that name. Values that are
stored before their type is known must be sound as a whole: strings must be
texts, numbers must be floats, and the nesting has a limit.
-/

namespace VariableBridge.Json

open Number (Single Double)

namespace Value

/-- The text of a string. -/
def toText? : Value → Option String
  | .string content => content
  | _ => none

/-- A truth value. -/
def toBool? : Value → Option Bool
  | .bool value => some value
  | _ => none

/-- A natural number below a bound. -/
def toNatBelow? (bound : Nat) : Value → Option Nat
  | .number numeral => numeral.toNat?.filter (· < bound)
  | _ => none

/-- A 32-bit number without a sign. -/
def toUInt32? (v : Value) : Option UInt32 := (v.toNatBelow? UInt32.size).map UInt32.ofNat

/-- A signed 32-bit number. -/
def toInt32? : Value → Option Int32
  | .number numeral =>
    (numeral.toInt?.filter fun n =>
      Int32.minValue.toInt ≤ n && n ≤ Int32.maxValue.toInt).map Int32.ofInt
  | _ => none

/-- A 32-bit float. -/
def toSingle? : Value → Option Single
  | .number numeral => numeral.toSingle?
  | _ => none

/-- A 64-bit float. -/
def toDouble? : Value → Option Double
  | .number numeral => numeral.toDouble?
  | _ => none

/-- The elements of an array, each decoded. -/
def toList? {α : Type} (decode : Value → Option α) : Value → Option (List α)
  | .array elements => elements.mapM decode
  | _ => none

/-- How often a name is given. -/
def occurrences (name : String) (members : List (Option String × Value)) : Nat :=
  members.countP fun m => m.1 == some name

/-- The members with these names in their order; one that is not given is none. Every
name in an object must be a text, and those that are asked for may be given only once. -/
def fields? (names : List String) : Value → Option (List (Option Value))
  | .object members =>
    if members.all (fun m => m.1.isSome) && names.all (fun n => occurrences n members ≤ 1) then
      some (names.map fun n => (members.find? fun m => m.1 == some n).map Prod.snd)
    else none
  | .array elements =>
    if elements.length ≤ names.length then
      some (names.zipIdx.map fun n => elements[n.2]?)
    else none
  | _ => none

/-- The name of a choice and what is given with it. -/
def choice? : Value → Option (String × Option Value)
  | .string (some name) => some (name, none)
  | .object [(some name, content)] => some (name, some content)
  | _ => none

/-- Is this what may be given with a choice that has no content? A stored value may also
be an empty object. -/
def isNoContent (stored : Bool) : Option Value → Bool
  | none => true
  | some .null => true
  | some (.object []) => stored
  | _ => false

/-- Containers that may be nested in a stored value. -/
def nestingLimit : Nat := 127

mutual

/-- Is a value sound, with at most this many containers nested? -/
def isSound : Nat → Value → Bool
  | _, .null => true
  | _, .bool _ => true
  | _, .number numeral => numeral.toDouble?.isSome
  | _, .string content => content.isSome
  | 0, .array _ => false
  | depth + 1, .array elements => areSound depth elements
  | 0, .object _ => false
  | depth + 1, .object members => membersAreSound depth members

/-- Are all elements sound? -/
def areSound : Nat → List Value → Bool
  | _, [] => true
  | depth, value :: rest => isSound depth value && areSound depth rest

/-- Are all members sound, and their names texts? -/
def membersAreSound : Nat → List (Option String × Value) → Bool
  | _, [] => true
  | depth, (name, value) :: rest =>
    name.isSome && isSound depth value && membersAreSound depth rest

end

end Value

/-- A member that must be given. -/
def required {α : Type} (decode : Value → Option α) (member : Option Value) : Option α :=
  member.bind decode

/-- A member that has a default. -/
def optional {α : Type} (decode : Value → Option α) (fallback : α) : Option Value → Option α
  | none => some fallback
  | some value => decode value

end VariableBridge.Json
