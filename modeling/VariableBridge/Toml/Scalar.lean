import VariableBridge.Number.Reading
import VariableBridge.Time.Calendar
import VariableBridge.Toml.Text
import VariableBridge.Toml.Value

/-!
# Numbers and moments of a configuration text

An integer is decimal, or in another base behind its mark; a float has a
fraction or a power of ten, or is one of the special names. Single underscores
may stand between digits. A date must exist in the calendar.
-/

namespace VariableBridge.Toml

open Number (Double digitsValue)

/-- What stands behind a text at the start. -/
def dropText : List Char → List Char → Option (List Char)
  | [], cs => some cs
  | _ :: _, [] => none
  | t :: text, c :: cs => if t = c then dropText text cs else none

/-- Digits at the start, with single underscores between them, and what stands behind. -/
def readDigits (isDigit : Char → Bool) : List Char → Option (List Char × List Char)
  | [] => none
  | c :: rest =>
    if isDigit c then
      match rest with
      | [] => some ([c], [])
      | '_' :: after => (readDigits isDigit after).map fun r => (c :: r.1, r.2)
      | d :: after =>
        if isDigit d then (readDigits isDigit (d :: after)).map fun r => (c :: r.1, r.2)
        else some ([c], d :: after)
    else none

/-- A sign; true is a minus sign. -/
def readSign : List Char → Bool × List Char
  | '+' :: rest => (false, rest)
  | '-' :: rest => (true, rest)
  | cs => (false, cs)

/-- Decimal digits of an integer part: a zero stands alone. -/
def readWhole : List Char → Option (List Char × List Char)
  | '0' :: rest => some (['0'], rest)
  | cs => readDigits Char.isDigit cs

/-- Digits of a fraction behind a point. -/
def readFraction : List Char → Option (List Char × List Char)
  | '.' :: rest => readDigits Char.isDigit rest
  | _ => none

/-- A power of ten behind its letter. -/
def readPower (cs : List Char) : Option (Int × List Char) :=
  match cs with
  | letter :: rest =>
    if letter = 'e' ∨ letter = 'E' then
      let (negative, rest) := readSign rest
      (readDigits Char.isDigit rest).map fun r =>
        (if negative then -(digitsValue r.1 : Int) else digitsValue r.1, r.2)
    else none
  | [] => none

/-- A float that is named. -/
def readNamedFloat (cs : List Char) : Option (Double × List Char) :=
  let (negative, rest) := readSign cs
  match dropText "inf".toList rest, dropText "nan".toList rest with
  | some after, _ => some (Double.ofDatum (.infinite negative), after)
  | none, some after => some (Double.ofDatum .nan, after)
  | none, none => none

/-- A float with digits. A float beyond all positive numbers is an error. -/
def readDecimalFloat (cs : List Char) : Option (Double × List Char) := do
  let (negative, rest) := readSign cs
  let (whole, rest) ← readWhole rest
  let (fraction, rest) ← match readFraction rest with
    | some (fraction, rest) => some (fraction, rest)
    | none => if (readPower rest).isSome then some ([], rest) else none
  let (power, rest) := (readPower rest).getD (0, rest)
  let x := Double.ofDecimal negative (digitsValue (whole ++ fraction)) (power - fraction.length)
  if x = Double.ofDatum (.infinite false) then none else some (x, rest)

/-- The first integer that does not fit into 64 bits. -/
def integerBound : Int := 9223372036854775808

/-- Keep an integer that fits into 64 bits. -/
def fitInteger (value : Int) : Option Int :=
  if -integerBound ≤ value ∧ value < integerBound then some value else none

/-- Digits of another base. -/
def readBased (base : Nat) (cs : List Char) : Option (Int × List Char) := do
  let isDigit c := ((Json.hexValue c).filter (· < base)).isSome
  let (digits, rest) ← readDigits isDigit cs
  let value ← fitInteger (digits.foldl (fun n c => base * n + (Json.hexValue c).getD 0) 0 : Nat)
  return (value, rest)

/-- An integer. -/
def readInteger : List Char → Option (Int × List Char)
  | '0' :: 'x' :: rest => readBased 16 rest
  | '0' :: 'o' :: rest => readBased 8 rest
  | '0' :: 'b' :: rest => readBased 2 rest
  | cs => do
    let (negative, rest) := readSign cs
    let (digits, rest) ← readWhole rest
    let magnitude : Int := digitsValue digits
    let value ← fitInteger (if negative then -magnitude else magnitude)
    return (value, rest)

/-- A number of exactly so many digits. -/
def readFixed (places : Nat) (cs : List Char) : Option (Nat × List Char) :=
  let digits := cs.take places
  if digits.length = places ∧ digits.all Char.isDigit then
    some (digitsValue digits, cs.drop places)
  else none

/-- A date that exists. -/
def readDate (cs : List Char) : Option (List Char) := do
  let (year, cs) ← readFixed 4 cs
  let cs ← dropText ['-'] cs
  let (month, cs) ← readFixed 2 cs
  let cs ← dropText ['-'] cs
  let (day, cs) ← readFixed 2 cs
  if (Time.CalendarDay.mk year month day).isValid then some cs else none

/-- Decimals of a second, if there are any. -/
def readDecimals : List Char → Option (List Char)
  | '.' :: c :: rest => if c.isDigit then some (rest.dropWhile Char.isDigit) else none
  | '.' :: [] => none
  | cs => some cs

/-- A time of day. -/
def readClock (cs : List Char) : Option (List Char) := do
  let (hour, cs) ← readFixed 2 cs
  let cs ← dropText [':'] cs
  let (minute, cs) ← readFixed 2 cs
  let cs ← dropText [':'] cs
  let (second, cs) ← readFixed 2 cs
  if hour < 24 ∧ minute < 60 ∧ second ≤ 60 then readDecimals cs else none

/-- An offset from universal time, if there is one. -/
def readZone : List Char → Option (List Char)
  | 'Z' :: rest => some rest
  | 'z' :: rest => some rest
  | sign :: rest =>
    if sign = '+' ∨ sign = '-' then do
      let (hour, cs) ← readFixed 2 rest
      let cs ← dropText [':'] cs
      let (minute, cs) ← readFixed 2 cs
      if hour < 24 ∧ minute < 60 then some cs else none
    else some (sign :: rest)
  | [] => some []

/-- A time behind a date, if there is one. -/
def readClockOfDate (cs : List Char) : Option (List Char) :=
  match cs with
  | mark :: rest =>
    if mark = 'T' ∨ mark = 't' ∨ mark = ' ' then
      match readClock rest with
      | some after => readZone after
      | none => some cs
    else some cs
  | [] => some []

/-- A date, a time or both. -/
def readMoment (cs : List Char) : Option (List Char) :=
  match readDate cs with
  | some rest => readClockOfDate rest
  | none => readClock cs

/-- A moment or a number. -/
def readNumber (cs : List Char) : Option (Value × List Char) :=
  match readMoment cs, readDecimalFloat cs, readNamedFloat cs, readInteger cs with
  | some rest, _, _, _ => some (.moment, rest)
  | none, some (x, rest), _, _ => some (.float x, rest)
  | none, none, some (x, rest), _ => some (.float x, rest)
  | none, none, none, some (n, rest) => some (.integer n, rest)
  | none, none, none, none => none

example :
    (readDecimalFloat "44_100.5".toList).map Prod.fst = some (Double.nearest false 88201 2) := by
  decide +kernel
example : readInteger "0x_1".toList = none := by decide +kernel

end VariableBridge.Toml
