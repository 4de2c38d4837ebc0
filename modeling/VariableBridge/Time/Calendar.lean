/-!
# The calendar

Days are counted from the start of 1970 in the Gregorian calendar, which is
used for all years. Counting with years that begin in March puts the leap day
at the end of a year.
-/

namespace VariableBridge.Time

/-- A day of the calendar. -/
structure CalendarDay where
  /-- Year; the year before 1 is 0. -/
  year : Int
  /-- Month from 1. -/
  month : Nat
  /-- Day of the month from 1. -/
  day : Nat
  deriving DecidableEq, Repr

/-- Has the year a leap day? -/
def isLeapYear (year : Int) : Bool := year % 4 == 0 && (year % 100 != 0 || year % 400 == 0)

/-- Number of days of a month. -/
def daysInMonth (year : Int) (month : Nat) : Nat :=
  if month = 2 then if isLeapYear year then 29 else 28
  else if month = 4 ∨ month = 6 ∨ month = 9 ∨ month = 11 then 30
  else 31

namespace CalendarDay

/-- Is there such a day? -/
def isValid (d : CalendarDay) : Bool :=
  1 ≤ d.month && d.month ≤ 12 && 1 ≤ d.day && d.day ≤ daysInMonth d.year d.month

/-- Days from the first of March of year 0 to the start of 1970. -/
def epochDays : Int := 719468

/-- Days of four hundred years. -/
def cycleDays : Int := 146097

/-- Days since the start of 1970. -/
def toDays (d : CalendarDay) : Int :=
  let year := if d.month ≤ 2 then d.year - 1 else d.year
  let month : Int := if d.month ≤ 2 then (d.month : Int) + 9 else (d.month : Int) - 3
  let yearOfCycle := year % 400
  let dayOfYear := (153 * month + 2) / 5 + d.day - 1
  let dayOfCycle := yearOfCycle * 365 + yearOfCycle / 4 - yearOfCycle / 100 + dayOfYear
  year / 400 * cycleDays + dayOfCycle - epochDays

/-- The day with this number of days since the start of 1970. -/
def ofDays (days : Int) : CalendarDay :=
  let shifted := days + epochDays
  let dayOfCycle := shifted % cycleDays
  let yearOfCycle :=
    (dayOfCycle - dayOfCycle / 1460 + dayOfCycle / 36524 - dayOfCycle / 146096) / 365
  let dayOfYear := dayOfCycle - (365 * yearOfCycle + yearOfCycle / 4 - yearOfCycle / 100)
  let marchMonth := (5 * dayOfYear + 2) / 153
  let day := dayOfYear - (153 * marchMonth + 2) / 5 + 1
  let month := if marchMonth < 10 then marchMonth + 3 else marchMonth - 9
  let year := shifted / cycleDays * 400 + yearOfCycle + if month ≤ 2 then 1 else 0
  ⟨year, month.toNat, day.toNat⟩

end CalendarDay

example : (CalendarDay.mk 1970 1 1).toDays = 0 := by decide +kernel
example : CalendarDay.ofDays 19723 = ⟨2024, 1, 1⟩ := by decide +kernel
example : CalendarDay.ofDays (CalendarDay.mk (-1) 2 28).toDays = ⟨-1, 2, 28⟩ := by decide +kernel

end VariableBridge.Time
