import VariableBridge.Json.Text
import VariableBridge.Json.Value

/-!
# Reading JSON

The reader goes through the text once. Every call of its functions is paid from
a budget that is larger than the text can use up, so that running out of it
never decides anything.
-/

namespace VariableBridge.Json

/-- Is this one of the four characters that may stand between tokens? -/
def isSpace (c : Char) : Bool := c == ' ' || c == '\n' || c == '\t' || c == '\r'

/-- Drop the characters between tokens. -/
def skipSpaces (cs : List Char) : List Char := cs.dropWhile isSpace

/-- Digits at the start, and what stands behind them. -/
def readDigits (cs : List Char) : List Char × List Char :=
  (cs.takeWhile Char.isDigit, cs.dropWhile Char.isDigit)

/-- Digits behind a point; without a point there are none. -/
def readFraction : List Char → Option (List Char × List Char)
  | '.' :: rest =>
    let (digits, after) := readDigits rest
    if digits.isEmpty then none else some (digits, after)
  | cs => some ([], cs)

/-- Sign of a power of ten; true is a minus sign. -/
def readSign : List Char → Bool × List Char
  | '+' :: rest => (false, rest)
  | '-' :: rest => (true, rest)
  | cs => (false, cs)

/-- Sign and digits of a power of ten behind their letter. -/
def readPowerDigits (cs : List Char) : Option (Option (Bool × List Char) × List Char) :=
  let (negative, rest) := readSign cs
  let (digits, after) := readDigits rest
  if digits.isEmpty then none else some (some (negative, digits), after)

/-- A power of ten; without its letter there is none. -/
def readPower : List Char → Option (Option (Bool × List Char) × List Char)
  | 'e' :: rest => readPowerDigits rest
  | 'E' :: rest => readPowerDigits rest
  | cs => some (none, cs)

/-- Digits before the point: a zero stands alone. -/
def readWhole (cs : List Char) : Option (List Char × List Char) :=
  match readDigits cs with
  | ([], _) => none
  | (['0'], rest) => some (['0'], rest)
  | ('0' :: _, _) => none
  | (digits, rest) => some (digits, rest)

/-- A numeral behind its sign. -/
def readMagnitude (negative : Bool) (cs : List Char) : Option (Numeral × List Char) :=
  match readWhole cs with
  | none => none
  | some (whole, rest) =>
    match readFraction rest with
    | none => none
    | some (fraction, rest) =>
      match readPower rest with
      | none => none
      | some (power, rest) => some (⟨negative, whole, fraction, power⟩, rest)

/-- A numeral. -/
def readNumeral : List Char → Option (Numeral × List Char)
  | '-' :: rest => readMagnitude true rest
  | cs => readMagnitude false cs

mutual

/-- A value at the start of the text, and what stands behind it. -/
def readValue : Nat → List Char → Option (Value × List Char)
  | 0, _ => none
  | budget + 1, cs =>
    match skipSpaces cs with
    | 'n' :: 'u' :: 'l' :: 'l' :: rest => some (.null, rest)
    | 't' :: 'r' :: 'u' :: 'e' :: rest => some (.bool true, rest)
    | 'f' :: 'a' :: 'l' :: 's' :: 'e' :: rest => some (.bool false, rest)
    | '"' :: rest =>
      match readText rest with
      | some (content, after) => some (.string content, after)
      | none => none
    | '[' :: rest =>
      match skipSpaces rest with
      | ']' :: after => some (.array [], after)
      | inner =>
        match readElements budget inner with
        | some (elements, after) => some (.array elements, after)
        | none => none
    | '\x7b' :: rest =>
      match skipSpaces rest with
      | '\x7d' :: after => some (.object [], after)
      | inner =>
        match readMembers budget inner with
        | some (members, after) => some (.object members, after)
        | none => none
    | cs =>
      match readNumeral cs with
      | some (numeral, after) => some (.number numeral, after)
      | none => none

/-- The elements of an array up to its end. -/
def readElements : Nat → List Char → Option (List Value × List Char)
  | 0, _ => none
  | budget + 1, cs =>
    match readValue budget cs with
    | none => none
    | some (value, rest) =>
      match skipSpaces rest with
      | ']' :: after => some ([value], after)
      | ',' :: inner =>
        match readElements budget inner with
        | some (values, after) => some (value :: values, after)
        | none => none
      | _ => none

/-- The members of an object up to its end. -/
def readMembers : Nat → List Char → Option (List (Option String × Value) × List Char)
  | 0, _ => none
  | budget + 1, cs =>
    match skipSpaces cs with
    | '"' :: rest =>
      match readText rest with
      | none => none
      | some (name, rest) =>
        match skipSpaces rest with
        | ':' :: rest =>
          match readValue budget rest with
          | none => none
          | some (value, rest) =>
            match skipSpaces rest with
            | '\x7d' :: after => some ([(name, value)], after)
            | ',' :: inner =>
              match readMembers budget inner with
              | some (members, after) => some ((name, value) :: members, after)
              | none => none
            | _ => none
        | _ => none
    | _ => none

end

/-- A budget that a text cannot use up: each character pays for at most two calls. -/
def budgetFor (cs : List Char) : Nat := 2 * cs.length + 2

/-- The value of a text that holds nothing else. -/
def parse (text : String) : Option Value :=
  let cs := text.toList
  match readValue (budgetFor cs) cs with
  | some (value, rest) => if (skipSpaces rest).isEmpty then some value else none
  | none => none

end VariableBridge.Json
