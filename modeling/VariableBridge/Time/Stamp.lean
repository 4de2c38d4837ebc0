import VariableBridge.Number.Reading
import VariableBridge.Number.Text
import VariableBridge.Text.Blank
import VariableBridge.Time.Calendar
import VariableBridge.Time.Instant

/-!
# Time stamps

An instant is written as a date, a time of day in universal time and as many
groups of three decimals as it needs. Reading is more liberal: numbers may be
short, blanks may stand around them, and the time may be given with an offset
from universal time.
-/

namespace VariableBridge.Time

open Number (digitsValue)
open Text (isBlank trimStart)

/-- Seconds of one day. -/
def secondsPerDay : Int := 86400

/-- A number with leading zeros. -/
def padded (places n : Nat) : List Char :=
  let digits := Nat.toDigits 10 n
  List.replicate (places - digits.length) '0' ++ digits

/-- A year: four digits, or a sign and at least four digits outside of years 0 to 9999. -/
def writeYear (year : Int) : List Char :=
  if 0 ≤ year ∧ year ≤ 9999 then padded 4 year.toNat
  else (if year < 0 then '-' else '+') :: padded 4 year.natAbs

/-- Decimals of a second in the fewest groups of three. -/
def writeFraction (nanoseconds : Nat) : List Char :=
  if nanoseconds = 0 then []
  else if nanoseconds % 1000000 = 0 then '.' :: padded 3 (nanoseconds / 1000000)
  else if nanoseconds % 1000 = 0 then '.' :: padded 6 (nanoseconds / 1000)
  else '.' :: padded 9 nanoseconds

/-- The text of an instant. -/
def Instant.write (i : Instant) : String :=
  let day := CalendarDay.ofDays (i.seconds / secondsPerDay)
  let second := (i.seconds % secondsPerDay).toNat
  let leap := i.nanoseconds / nanosecondsPerSecond
  String.ofList (writeYear day.year ++ '-' :: padded 2 day.month ++ '-' :: padded 2 day.day ++
    'T' :: padded 2 (second / 3600) ++ ':' :: padded 2 (second / 60 % 60) ++
    ':' :: padded 2 (second % 60 + leap) ++ writeFraction (i.nanoseconds % nanosecondsPerSecond) ++
    ['Z'])

/-- The first characters up to a number of them that are digits, and what stands behind them. -/
def takeDigits (most : Nat) (cs : List Char) : List Char × List Char :=
  let digits := (cs.take most).takeWhile Char.isDigit
  (digits, cs.drop digits.length)

/-- A number of at least one and at most so many digits. -/
def readNumber (most : Nat) (cs : List Char) : Option (Nat × List Char) :=
  match takeDigits most cs with
  | ([], _) => none
  | (digits, rest) => some (digitsValue digits, rest)

/-- A number of one or two digits behind blanks. -/
def readPair (cs : List Char) : Option (Nat × List Char) := readNumber 2 (trimStart cs)

/-- A year behind blanks: up to four digits, or a sign and any number of digits. -/
def readYear (cs : List Char) : Option (Int × List Char) :=
  match trimStart cs with
  | '-' :: rest => (readNumber rest.length rest).map fun r => (-(r.1 : Int), r.2)
  | '+' :: rest => (readNumber rest.length rest).map fun r => ((r.1 : Int), r.2)
  | rest => (readNumber 4 rest).map fun r => ((r.1 : Int), r.2)

/-- A separator behind blanks. -/
def readMark (mark : Char) (cs : List Char) : Option (List Char) :=
  match trimStart cs with
  | c :: rest => if c = mark then some rest else none
  | [] => none

/-- A date. -/
def readDay (cs : List Char) : Option (CalendarDay × List Char) := do
  let (year, cs) ← readYear cs
  let cs ← readMark '-' cs
  let (month, cs) ← readPair cs
  let cs ← readMark '-' cs
  let (day, cs) ← readPair cs
  return (⟨year, month, day⟩, cs)

/-- Decimals of a second in nanoseconds; those behind the ninth are skipped. -/
def readNanoseconds (cs : List Char) : Option (Nat × List Char) :=
  match cs with
  | '.' :: rest =>
    match takeDigits 9 rest with
    | ([], _) => none
    | (digits, rest) =>
      some (digitsValue digits * Nat.pow 10 (9 - digits.length), rest.dropWhile Char.isDigit)
  | cs => some (0, cs)

/-- A time of day: second of the day and nanoseconds. A sixtieth second is a leap second. -/
def readTime (cs : List Char) : Option ((Nat × Nat) × List Char) := do
  let (hour, cs) ← readPair cs
  let cs ← readMark ':' cs
  let (minute, cs) ← readPair cs
  let cs ← readMark ':' cs
  let (second, cs) ← readPair cs
  let (nanoseconds, cs) ← readNanoseconds cs
  if hour < 24 ∧ minute < 60 ∧ second ≤ 60 then
    let start := hour * 3600 + minute * 60
    if second = 60 then return ((start + 59, nanoseconds + nanosecondsPerSecond), cs)
    else return ((start + second, nanoseconds), cs)
  else none

/-- Two digits. -/
def readTwoDigits : List Char → Option (Nat × List Char)
  | a :: b :: rest => if a.isDigit && b.isDigit then some (digitsValue [a, b], rest) else none
  | _ => none

/-- Hours and minutes of an offset behind its sign, in seconds. -/
def readOffsetSize (cs : List Char) : Option (Nat × List Char) := do
  let (hours, cs) ← readTwoDigits cs
  let (minutes, cs) ← readTwoDigits (cs.dropWhile fun c => c == ':' || isBlank c)
  if minutes < 60 ∧ hours < 24 then return (hours * 3600 + minutes * 60, cs) else none

/-- An offset from universal time in seconds. -/
def readOffset : List Char → Option (Int × List Char)
  | 'Z' :: rest => some (0, rest)
  | 'z' :: rest => some (0, rest)
  | '+' :: rest => (readOffsetSize rest).map fun r => ((r.1 : Int), r.2)
  | '-' :: rest => (readOffsetSize rest).map fun r => (-(r.1 : Int), r.2)
  | '\u2212' :: rest => (readOffsetSize rest).map fun r => (-(r.1 : Int), r.2)
  | u :: t :: c :: rest =>
    if u.toUpper = 'U' ∧ t.toUpper = 'T' ∧ c.toUpper = 'C' then some (0, rest) else none
  | _ => none

/-- The mark between date and time. -/
def readTimeMark : List Char → Option (List Char)
  | 'T' :: rest => some rest
  | 't' :: rest => some rest
  | ' ' :: rest => some rest
  | _ => none

/-- The first year that can be told. -/
def leastYear : Int := -262143

/-- The last year that can be told. -/
def greatestYear : Int := 262142

/-- Can the year be told? -/
def isYearInRange (year : Int) : Bool := leastYear ≤ year && year ≤ greatestYear

/-- The instant of a text that holds nothing else. -/
def Instant.read (text : String) : Option Instant := do
  let (day, cs) ← readDay text.toList
  let cs ← readTimeMark cs
  let ((second, nanoseconds), cs) ← readTime cs
  let (offset, cs) ← readOffset (trimStart cs)
  let seconds := day.toDays * secondsPerDay + second - offset
  let shown := (CalendarDay.ofDays (seconds / secondsPerDay)).year
  if (trimStart cs).isEmpty && day.isValid && isYearInRange day.year && isYearInRange shown then
    return ⟨seconds, nanoseconds⟩
  else none

example : (Instant.read "2024-12-31T23:30:00-00:45").map Instant.write =
    some "2025-01-01T00:15:00Z" := by decide +kernel
example : (Instant.read "2016-12-31T23:59:60.5Z").map Instant.write =
    some "2016-12-31T23:59:60.500Z" := by decide +kernel

end VariableBridge.Time
