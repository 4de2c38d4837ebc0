import VariableBridge.Time.Calendar

/-!
# Days of the calendar

The year of a day within four hundred years is found by a division that leaves the leap days out,
and its month by another one. Main statements: the division finds the year that the day lies in;
hence every number of days is that of exactly one day of the calendar, and it is a day that its
month has.
-/

namespace VariableBridge.Time.CalendarDay

/-- Days of four hundred years before a year of them. -/
def daysBefore (year : Int) : Int := 365 * year + year / 4 - year / 100 + year / 400

/-- The days up to a day of four hundred years without the leap days among them. -/
def withoutLeapDays (day : Int) : Int := day - day / 1460 + day / 36524 - day / 146096

/-- Later days have at least as many days before them, leap days or not. -/
theorem withoutLeapDays_mono {a b : Int} (hab : a ≤ b) :
    withoutLeapDays a ≤ withoutLeapDays b := by
  unfold withoutLeapDays
  omega

/-- First and last day of each year are in this year, when days are counted without leap days. -/
theorem withoutLeapDays_of_ends : ∀ y : Nat, y < 400 →
    365 * (y : Int) ≤ withoutLeapDays (daysBefore y) ∧
      withoutLeapDays (daysBefore (y + 1) - 1) < 365 * (y + 1) := by
  decide +kernel

/-- Every day lies in a year: behind the days before it, and before those of the next one. -/
theorem exists_year {day : Int} (h0 : 0 ≤ day) {n : Nat} (h : day < daysBefore n) :
    ∃ y < n, daysBefore y ≤ day ∧ day < daysBefore (y + 1) := by
  induction n with
  | zero =>
    have hzero : daysBefore (0 : Nat) = 0 := rfl
    omega
  | succ n ih =>
    rcases Int.lt_or_le day (daysBefore n) with hlt | hge
    · obtain ⟨y, hy, hday⟩ := ih hlt
      exact ⟨y, by omega, hday⟩
    · exact ⟨n, by omega, hge, by exact_mod_cast h⟩

/-- The division finds the year that a day lies in, because leap days never push a day over its
end. -/
theorem year_of_day {day : Int} (h0 : 0 ≤ day) (h : day < 146097) :
    0 ≤ withoutLeapDays day / 365 ∧ withoutLeapDays day / 365 < 400 ∧
      daysBefore (withoutLeapDays day / 365) ≤ day ∧
      day < daysBefore (withoutLeapDays day / 365 + 1) := by
  have hall : daysBefore (400 : Nat) = 146097 := by decide
  obtain ⟨y, hy, hfrom, hto⟩ := exists_year h0 (n := 400) (by omega)
  obtain ⟨hfirst, hlast⟩ := withoutLeapDays_of_ends y hy
  have hlow := withoutLeapDays_mono hfrom
  have hhigh := withoutLeapDays_mono (by omega : day ≤ daysBefore (y + 1) - 1)
  have hyear : withoutLeapDays day / 365 = y := by omega
  rw [hyear]
  exact ⟨by omega, by omega, hfrom, hto⟩

/-- A year has a day more exactly if the next one, to which its last day belongs when years
begin in March, is a leap year. -/
theorem daysBefore_succ (year : Int) :
    daysBefore (year + 1) = daysBefore year + if isLeapYear (year + 1) then 366 else 365 := by
  have hleap : isLeapYear (year + 1) = true ↔
      (year + 1) % 4 = 0 ∧ ((year + 1) % 100 ≠ 0 ∨ (year + 1) % 400 = 0) := by
    simp [isLeapYear]
  unfold daysBefore
  split
  next h =>
    have := hleap.mp h
    omega
  next h =>
    have := mt hleap.mpr h
    omega

/-- Days of a month, with one of February on the last day of a leap year that begins in March. -/
def monthLength (dayOfYear : Nat) (month : Nat) : Nat :=
  if month = 2 then if dayOfYear = 365 then 29 else 28
  else if month = 4 ∨ month = 6 ∨ month = 9 ∨ month = 11 then 30
  else 31

/-- The month of a day has the day, for each day of a year that begins with March. -/
theorem month_of_day : ∀ dayOfYear : Nat, dayOfYear < 366 →
    let marchMonth := (5 * (dayOfYear : Int) + 2) / 153
    let day := (dayOfYear : Int) - (153 * marchMonth + 2) / 5 + 1
    let month := if marchMonth < 10 then marchMonth + 3 else marchMonth - 9
    0 ≤ marchMonth ∧ marchMonth < 12 ∧ 1 ≤ day ∧ day ≤ monthLength dayOfYear month.toNat := by
  decide +kernel

/-- A day of a year that begins in March, in some four hundred years. -/
def ofYear (cycle year dayOfYear : Int) : CalendarDay :=
  let marchMonth := (5 * dayOfYear + 2) / 153
  let day := dayOfYear - (153 * marchMonth + 2) / 5 + 1
  let month := if marchMonth < 10 then marchMonth + 3 else marchMonth - 9
  ⟨cycle * 400 + year + if month ≤ 2 then 1 else 0, month.toNat, day.toNat⟩

section Year

variable {cycle year : Int} {dayOfYear : Nat}

/-- The days before it are those of the cycles, of the years and of its own year. -/
theorem toDays_ofYear (h0 : 0 ≤ year) (h1 : year < 400) (hday : dayOfYear < 366) :
    (ofYear cycle year dayOfYear).toDays =
      cycle * cycleDays + (daysBefore year + dayOfYear) - epochDays := by
  obtain ⟨hm0, hm1, hd, _⟩ := month_of_day dayOfYear hday
  have hquotient : (cycle * 400 + year) / 400 = cycle := by omega
  have hrest : (cycle * 400 + year) % 400 = year := by omega
  unfold ofYear toDays daysBefore
  dsimp only
  generalize (5 * (dayOfYear : Int) + 2) / 153 = marchMonth at *
  have hday' : ((dayOfYear - (153 * marchMonth + 2) / 5 + 1).toNat : Int) =
      dayOfYear - (153 * marchMonth + 2) / 5 + 1 := Int.toNat_of_nonneg (by omega)
  by_cases hmonth : marchMonth < 10
  · have hcast : ((marchMonth + 3).toNat : Int) - 3 = marchMonth := by omega
    have hlate : ¬(marchMonth + 3).toNat ≤ 2 := by omega
    have hlate' : ¬marchMonth + 3 ≤ 2 := by omega
    simp only [if_pos hmonth, if_neg hlate, if_neg hlate', hcast, hday', Int.add_zero, hquotient,
      hrest]
    omega
  · have hcast : ((marchMonth - 9).toNat : Int) + 9 = marchMonth := by omega
    have hearly : (marchMonth - 9).toNat ≤ 2 := by omega
    have hearly' : marchMonth - 9 ≤ 2 := by omega
    simp only [if_neg hmonth, if_pos hearly, if_pos hearly', hcast, hday', Int.add_sub_cancel,
      hquotient, hrest]
    omega

/-- Its month has the day, if the last day of a long year belongs to a leap year. -/
theorem isValid_ofYear (hday : dayOfYear < 366)
    (hleap : dayOfYear = 365 → isLeapYear (year + 1) = true) :
    (ofYear cycle year dayOfYear).isValid = true := by
  obtain ⟨hm0, hm1, hd, hlength⟩ := month_of_day dayOfYear hday
  have hleapYear : isLeapYear (cycle * 400 + year + 1) = isLeapYear (year + 1) := by
    unfold isLeapYear
    have h4 : (cycle * 400 + year + 1) % 4 = (year + 1) % 4 := by omega
    have h100 : (cycle * 400 + year + 1) % 100 = (year + 1) % 100 := by omega
    have h400 : (cycle * 400 + year + 1) % 400 = (year + 1) % 400 := by omega
    rw [h4, h100, h400]
  unfold ofYear isValid
  dsimp only
  generalize (5 * (dayOfYear : Int) + 2) / 153 = marchMonth at *
  obtain ⟨month, hmonth⟩ : ∃ month,
      (if marchMonth < 10 then marchMonth + 3 else marchMonth - 9) = month := ⟨_, rfl⟩
  have hrange : 1 ≤ month ∧ month ≤ 12 := by
    split at hmonth <;> omega
  simp only [hmonth] at hlength ⊢
  have hmost : monthLength dayOfYear month.toNat ≤
      daysInMonth (cycle * 400 + year + if month ≤ 2 then 1 else 0) month.toNat := by
    unfold monthLength daysInMonth
    by_cases hfebruary : month.toNat = 2
    · have hearly : month ≤ 2 := by omega
      simp only [if_pos hfebruary, if_pos hearly, hleapYear]
      by_cases hlast : dayOfYear = 365
      · simp only [if_pos hlast, hleap hlast, if_true, Nat.le_refl]
      · simp only [if_neg hlast]
        split <;> decide
    · simp only [if_neg hfebruary, Nat.le_refl]
  simp only [Bool.and_eq_true, decide_eq_true_eq]
  omega

end Year

/-- Every number of days is that of a day which its month has, before the epoch as well as after
it. -/
theorem ofDays_spec (days : Int) : (ofDays days).isValid = true ∧ (ofDays days).toDays = days := by
  -- the day within four hundred years that begin in March, and its year
  let shifted := days + epochDays
  let dayOfCycle := shifted % cycleDays
  have h0 : 0 ≤ dayOfCycle := Int.emod_nonneg _ (by decide)
  have h1 : dayOfCycle < 146097 := Int.emod_lt_of_pos _ (by decide)
  have hdivision : shifted / cycleDays * cycleDays + dayOfCycle = shifted :=
    Int.ediv_mul_add_emod shifted cycleDays
  obtain ⟨hy0, hy1, hfrom, hto⟩ := year_of_day h0 h1
  have hofDays : ofDays days = ofYear (shifted / cycleDays) (withoutLeapDays dayOfCycle / 365)
      (dayOfCycle - (365 * (withoutLeapDays dayOfCycle / 365) +
        withoutLeapDays dayOfCycle / 365 / 4 - withoutLeapDays dayOfCycle / 365 / 100)) := rfl
  generalize withoutLeapDays dayOfCycle / 365 = year at *
  have hlength := daysBefore_succ year
  have hbefore : daysBefore year = 365 * year + year / 4 - year / 100 := by
    unfold daysBefore
    omega
  -- the day within the year
  obtain ⟨dayOfYear, hday⟩ : ∃ n : Nat, dayOfCycle - daysBefore year = n :=
    ⟨(dayOfCycle - daysBefore year).toNat, by omega⟩
  have hshort : dayOfYear < 366 := by
    split at hlength <;> omega
  have hleap : dayOfYear = 365 → isLeapYear (year + 1) = true := by
    intro hlast
    cases hyear : isLeapYear (year + 1) with
    | true => rfl
    | false =>
      rw [hyear] at hlength
      simp only [Bool.false_eq_true, if_false] at hlength
      omega
  rw [hofDays, ← hbefore, hday]
  refine ⟨isValid_ofYear hshort hleap, ?_⟩
  have hshifted : shifted = days + epochDays := rfl
  rw [toDays_ofYear hy0 hy1 hshort]
  omega

end VariableBridge.Time.CalendarDay
