import Mathlib.Algebra.Order.Ring.Nat
import VariableBridge.Proofs.Text.Trimming
import VariableBridge.Proofs.Time.Calendar
import VariableBridge.Time.Stamp

/-!
# Time stamps read back

Main statement: an instant in a year that can be told is read back from its time stamp, leap
seconds included.
-/

namespace VariableBridge.Time

open Number (digitsValue)
open Text (isBlank trimStart)

/-- A digit is no blank, so nothing in front of a number is skipped that belongs to it. -/
theorem isBlank_of_isDigit {c : Char} (h : c.isDigit = true) : isBlank c = false := by
  have hrange : 48 ≤ c.toNat ∧ c.toNat ≤ 57 := by
    simp only [Char.isDigit, Bool.and_eq_true, decide_eq_true_eq] at h
    exact h
  unfold isBlank Text.CodeRanges.contains Text.blankRanges
  simp only [Text.CodeRanges.covers]
  repeat' split
  all_goals simp <;> omega

/-- A number that is filled up with zeros has digits only, which is what a reader of stamps asks
for. -/
theorem isDigit_of_mem_padded {places n : Nat} {c : Char} (hc : c ∈ padded places n) :
    c.isDigit = true := by
  unfold padded at hc
  rcases List.mem_append.mp hc with hzero | hdigit
  · rw [(List.mem_replicate.mp hzero).2]
    rfl
  · exact Nat.isDigit_of_mem_toDigits (by decide) (by decide) hdigit

/-- Zeros in front change nothing about the value of the digits. -/
theorem digitsValue_padded (places n : Nat) : digitsValue (padded places n) = n := by
  unfold digitsValue padded
  rw [Nat.ofDigitChars_append, Nat.ofDigitChars_replicate_zero, Nat.mul_zero]
  exact Nat.ofDigitChars_ten_toDigits

/-- A number that is filled up with zeros has one digit at least, so that a field of a stamp is
never empty. -/
theorem padded_ne_nil (places n : Nat) : padded places n ≠ [] :=
  List.append_ne_nil_of_right_ne_nil _ Nat.toDigits_ne_nil

/-- A number that fits into the places fills them, so parts of fixed length stay aligned. -/
theorem length_padded {places n : Nat} (hplaces : 0 < places) (h : n < 10 ^ places) :
    (padded places n).length = places := by
  have hdigits : (Nat.toDigits 10 n).length ≤ places :=
    (Nat.length_toDigits_le_iff (by decide) hplaces).mpr h
  unfold padded
  rw [List.length_append, List.length_replicate]
  omega

/-- Digits do not begin with anything else, so a sign or a mark in front can be told from them. -/
theorem padded_append_ne {mark : Char} (hmark : mark.isDigit = false) (places n : Nat)
    (rest cs : List Char) : padded places n ++ rest ≠ mark :: cs := by
  intro heq
  obtain ⟨c, digits, hhead⟩ := List.exists_cons_of_ne_nil (padded_ne_nil places n)
  have hdigit := isDigit_of_mem_padded (hhead ▸ List.mem_cons_self : c ∈ padded places n)
  rw [hhead, List.cons_append] at heq
  rw [(List.cons.inj heq).1, hmark] at hdigit
  cases hdigit

/-- Digits end at anything else, in particular at a mark between two parts. -/
theorem isDigit_head_cons {mark : Char} (hmark : mark.isDigit = false) (rest : List Char) :
    ∀ c ∈ (mark :: rest).head?, c.isDigit = false := by
  intro c hc
  rwa [← Option.some.inj hc]

/-- Digits are taken up to what follows them, if they are no more than may be taken. -/
theorem takeDigits_append {most : Nat} {ds rest : List Char} (hd : ∀ c ∈ ds, c.isDigit = true)
    (hlength : ds.length ≤ most) (hrest : ∀ c ∈ rest.head?, c.isDigit = false) :
    takeDigits most (ds ++ rest) = (ds, rest) := by
  have htake : (ds ++ rest).take most = ds ++ rest.take (most - ds.length) := by
    rw [List.take_append, List.take_of_length_le hlength]
  have hnone : (rest.take (most - ds.length)).takeWhile Char.isDigit = [] := by
    cases hcut : rest.take (most - ds.length) with
    | nil => rfl
    | cons c cs =>
      have hhead : rest.head? = some c := by
        rw [← List.take_append_drop (most - ds.length) rest, hcut]
        rfl
      have hc := hrest c hhead
      rw [List.takeWhile_cons_of_neg (by simp [hc])]
  unfold takeDigits
  dsimp only
  rw [htake, List.takeWhile_append_of_pos hd, hnone, List.append_nil, List.drop_left]

/-- A padded number is read up to what follows it, and its zeros in front do not count. -/
theorem readNumber_padded {most places n : Nat} {rest : List Char}
    (hlength : (padded places n).length ≤ most) (hrest : ∀ c ∈ rest.head?, c.isDigit = false) :
    readNumber most (padded places n ++ rest) = some (n, rest) := by
  unfold readNumber
  rw [takeDigits_append (fun _ => isDigit_of_mem_padded) hlength hrest]
  split
  next heq => exact absurd (congrArg Prod.fst heq) (padded_ne_nil places n)
  next digits rest' _ heq =>
    obtain ⟨rfl, rfl⟩ := Prod.mk.inj heq
    rw [digitsValue_padded]

/-- Nothing is dropped in front of digits, because they begin with no blank. -/
theorem trimStart_padded (places n : Nat) (rest : List Char) :
    trimStart (padded places n ++ rest) = padded places n ++ rest := by
  refine Text.trimStart_of_head ?_
  rw [List.head?_append_of_ne_nil _ (padded_ne_nil places n)]
  intro c hc
  exact isBlank_of_isDigit (isDigit_of_mem_padded (List.mem_of_mem_head? hc))

/-- Two digits are read as the number that they were padded from. -/
theorem readPair_padded {n : Nat} (hn : n < 100) {rest : List Char}
    (hrest : ∀ c ∈ rest.head?, c.isDigit = false) :
    readPair (padded 2 n ++ rest) = some (n, rest) := by
  unfold readPair
  rw [trimStart_padded]
  exact readNumber_padded (le_of_eq (length_padded (by decide) hn)) hrest

/-- A separator is read where it stands, and the rest is left for the next part. -/
theorem readMark_cons {mark : Char} (hmark : isBlank mark = false) (rest : List Char) :
    readMark mark (mark :: rest) = some rest := by
  have hhead : trimStart (mark :: rest) = mark :: rest := by
    refine Text.trimStart_of_head ?_
    intro c hc
    rwa [← Option.some.inj hc]
  unfold readMark
  rw [hhead]
  simp

/-- A signed number is read whatever its length is, since all the rest of the text may be digits. -/
theorem readNumber_signed (places n : Nat) {rest : List Char}
    (hrest : ∀ c ∈ rest.head?, c.isDigit = false) :
    readNumber (padded places n ++ rest).length (padded places n ++ rest) = some (n, rest) := by
  refine readNumber_padded ?_ hrest
  rw [List.length_append]
  omega

/-- A year is read, with its sign if it has one, and with more than four digits if it needs them. -/
theorem readYear_writeYear (year : Int) {rest : List Char}
    (hrest : ∀ c ∈ rest.head?, c.isDigit = false) :
    readYear (writeYear year ++ rest) = some (year, rest) := by
  unfold writeYear
  split
  next hfour =>
    have hlength : (padded 4 year.toNat).length = 4 := length_padded (by decide) (by omega)
    have hnumber := readNumber_padded (le_of_eq hlength) hrest
    unfold readYear
    rw [trimStart_padded]
    -- a digit is no sign
    split
    next hminus => exact absurd hminus (padded_append_ne rfl _ _ _ _)
    next hplus => exact absurd hplus (padded_append_ne rfl _ _ _ _)
    next =>
      rw [hnumber, Option.map_some, Int.toNat_of_nonneg hfour.1]
  next hsigned =>
    have hnumber := readNumber_signed 4 year.natAbs hrest
    by_cases hnegative : year < 0
    · have hhead : trimStart ('-' :: (padded 4 year.natAbs ++ rest)) =
          '-' :: (padded 4 year.natAbs ++ rest) := rfl
      have hvalue : -(year.natAbs : Int) = year := by omega
      unfold readYear
      rw [if_pos hnegative, List.cons_append, hhead]
      change (readNumber _ (padded 4 year.natAbs ++ rest)).map (fun r => (-(r.1 : Int), r.2)) = _
      rw [hnumber, Option.map_some, hvalue]
    · have hhead : trimStart ('+' :: (padded 4 year.natAbs ++ rest)) =
          '+' :: (padded 4 year.natAbs ++ rest) := rfl
      have hvalue : (year.natAbs : Int) = year := by omega
      unfold readYear
      rw [if_neg hnegative, List.cons_append, hhead]
      change (readNumber _ (padded 4 year.natAbs ++ rest)).map (fun r => ((r.1 : Int), r.2)) = _
      rw [hnumber, Option.map_some, hvalue]

/-- A date is read as the day that it was written for, if its month has that day. -/
theorem readDay_append {day : CalendarDay} (hday : day.isValid = true) {rest : List Char}
    (hrest : ∀ c ∈ rest.head?, c.isDigit = false) :
    readDay (writeYear day.year ++ '-' :: (padded 2 day.month ++ '-' :: (padded 2 day.day ++ rest)))
      = some (day, rest) := by
  have hdays : daysInMonth day.year day.month ≤ 31 := by
    unfold daysInMonth
    repeat' split
    all_goals decide
  simp only [CalendarDay.isValid, Bool.and_eq_true, decide_eq_true_eq] at hday
  have hmark := isDigit_head_cons (rfl : Char.isDigit '-' = false)
  have hmonth : readPair (padded 2 day.month ++ '-' :: (padded 2 day.day ++ rest)) =
      some (day.month, '-' :: (padded 2 day.day ++ rest)) := readPair_padded (by omega) (hmark _)
  have hlast : readPair (padded 2 day.day ++ rest) = some (day.day, rest) :=
    readPair_padded (by omega) hrest
  unfold readDay
  simp only [readYear_writeYear day.year (hmark _), Option.bind_eq_bind, Option.bind_some,
    readMark_cons (by decide : isBlank '-' = false), hmonth, hlast]
  rfl

/-- A group of decimals is read up to the mark, and the places that are missing count as zeros. -/
theorem readNanoseconds_padded {places n : Nat} (hplaces : 0 < places) (hmost : places ≤ 9)
    (hn : n < 10 ^ places) (rest : List Char) :
    readNanoseconds ('.' :: (padded places n ++ 'Z' :: rest)) =
      some (n * 10 ^ (9 - places), 'Z' :: rest) := by
  have hlength := length_padded hplaces hn
  have htake : takeDigits 9 (padded places n ++ 'Z' :: rest) = (padded places n, 'Z' :: rest) :=
    takeDigits_append (fun _ => isDigit_of_mem_padded) (hlength.trans_le hmost)
      (isDigit_head_cons rfl rest)
  unfold readNanoseconds
  simp only [htake]
  split
  next heq => exact absurd (congrArg Prod.fst heq) (padded_ne_nil places n)
  next digits rest' _ heq =>
    obtain ⟨rfl, rfl⟩ := Prod.mk.inj heq
    rw [digitsValue_padded, hlength, List.dropWhile_cons_of_neg (by decide)]
    rfl

/-- Decimals of a second are read as the nanoseconds that they were written for, in groups of three
or not at all. -/
theorem readNanoseconds_writeFraction {nanoseconds : Nat} (h : nanoseconds < nanosecondsPerSecond)
    (rest : List Char) :
    readNanoseconds (writeFraction nanoseconds ++ 'Z' :: rest) =
      some (nanoseconds, 'Z' :: rest) := by
  have hbound : nanosecondsPerSecond = 1000000000 := rfl
  unfold writeFraction
  split
  next hzero =>
    rw [hzero]
    rfl
  next =>
    split
    next hmilli =>
      rw [List.cons_append, readNanoseconds_padded (by decide) (by decide) (by omega)]
      congr 2
      omega
    next =>
      split
      next hmicro =>
        rw [List.cons_append, readNanoseconds_padded (by decide) (by decide) (by omega)]
        congr 2
        omega
      next =>
        rw [List.cons_append, readNanoseconds_padded (by decide) (by decide) (by omega)]
        simp

/-- A time of day is read; a second more than there are is a leap second. -/
theorem readTime_append {second nanoseconds : Nat} (hsecond : second < 86400)
    (hleap : nanoseconds < nanosecondsPerSecond ∨
      nanoseconds < 2 * nanosecondsPerSecond ∧ second % 60 = 59) (rest : List Char) :
    readTime (padded 2 (second / 3600) ++ ':' :: (padded 2 (second / 60 % 60) ++
        ':' :: (padded 2 (second % 60 + nanoseconds / nanosecondsPerSecond) ++
          (writeFraction (nanoseconds % nanosecondsPerSecond) ++ 'Z' :: rest)))) =
      some ((second, nanoseconds), 'Z' :: rest) := by
  have hmark := isDigit_head_cons (rfl : Char.isDigit ':' = false)
  have hfraction : ∀ c ∈ (writeFraction (nanoseconds % nanosecondsPerSecond) ++
      'Z' :: rest).head?, c.isDigit = false := by
    intro c hc
    unfold writeFraction at hc
    repeat' split at hc
    all_goals
      rw [← Option.some.inj hc]
      rfl
  have hblank : isBlank ':' = false := by decide
  have hread := readNanoseconds_writeFraction (Nat.mod_lt nanoseconds (by decide)) rest
  unfold readTime nanosecondsPerSecond at *
  have hshown : second % 60 + nanoseconds / 1000000000 ≤ 60 := by omega
  simp only [readPair_padded (by omega : second / 3600 < 100) (hmark _),
    readPair_padded (by omega : second / 60 % 60 < 100) (hmark _),
    readPair_padded (by omega : second % 60 + nanoseconds / 1000000000 < 100) hfraction,
    readMark_cons hblank, Option.bind_eq_bind, Option.bind_some, hread]
  rw [if_pos (by omega)]
  by_cases hsixty : second % 60 + nanoseconds / 1000000000 = 60
  · have hstart : second / 3600 * 3600 + second / 60 % 60 * 60 + 59 = second := by omega
    have hnanoseconds : nanoseconds % 1000000000 + 1000000000 = nanoseconds := by omega
    rw [if_pos hsixty, hstart, hnanoseconds]
    rfl
  · have hstart : second / 3600 * 3600 + second / 60 % 60 * 60 +
        (second % 60 + nanoseconds / 1000000000) = second := by omega
    have hnanoseconds : nanoseconds % 1000000000 = nanoseconds := by omega
    rw [if_neg hsixty, hstart, hnanoseconds]
    rfl

/-- Can the instant be given by a clock? Its year can be told, and only the last second of a
minute is a leap second. -/
structure Instant.IsTellable (i : Instant) : Prop where
  /-- The year can be told. -/
  year : isYearInRange (CalendarDay.ofDays (i.seconds / secondsPerDay)).year = true
  /-- A billion nanoseconds or more make a leap second. -/
  nanoseconds : i.nanoseconds < nanosecondsPerSecond ∨
    i.nanoseconds < 2 * nanosecondsPerSecond ∧ i.seconds % 60 = 59

/-- The beginning of 1970 can be told by a stamp, so that a bus can stamp samples before its clock
is set. -/
theorem Instant.isTellable_epoch : epoch.IsTellable := ⟨by decide +kernel, .inl (by decide)⟩

/-- An instant is read back from its time stamp, to the nanosecond, for every year that stamps can
tell. -/
theorem Instant.read_write {i : Instant} (h : i.IsTellable) : read i.write = some i := by
  obtain ⟨seconds, nanoseconds⟩ := i
  obtain ⟨hyear, hnanoseconds⟩ := h
  dsimp only at hyear hnanoseconds
  obtain ⟨hvalid, htoDays⟩ := CalendarDay.ofDays_spec (seconds / secondsPerDay)
  generalize hday : CalendarDay.ofDays (seconds / secondsPerDay) = day at hyear hvalid htoDays
  obtain ⟨second, hsecond⟩ : ∃ second, (seconds % secondsPerDay).toNat = second := ⟨_, rfl⟩
  have hbounds : second < 86400 ∧ day.toDays * secondsPerDay + second - 0 = seconds ∧
      (second : Int) % 60 = seconds % 60 := by
    rw [htoDays]
    unfold secondsPerDay at hsecond ⊢
    omega
  have hleap : nanoseconds < nanosecondsPerSecond ∨
      nanoseconds < 2 * nanosecondsPerSecond ∧ second % 60 = 59 :=
    hnanoseconds.imp_right fun h => ⟨h.1, by omega⟩
  -- the text, with the parts in the order in which they are read
  have htext : (write ⟨seconds, nanoseconds⟩).toList = writeYear day.year ++ '-' ::
      (padded 2 day.month ++ '-' :: (padded 2 day.day ++ 'T' :: (padded 2 (second / 3600) ++
        ':' :: (padded 2 (second / 60 % 60) ++
          ':' :: (padded 2 (second % 60 + nanoseconds / nanosecondsPerSecond) ++
            (writeFraction (nanoseconds % nanosecondsPerSecond) ++ ['Z'])))))) := by
    unfold write
    simp only [String.toList_ofList, List.append_assoc, List.cons_append, hday, hsecond]
  have hmark := isDigit_head_cons (rfl : Char.isDigit 'T' = false)
  have htime := readTime_append hbounds.1 hleap []
  have hzone : readOffset (trimStart ['Z']) = some (0, []) := rfl
  unfold read
  simp only [htext, readDay_append hvalid (hmark _), Option.bind_eq_bind, Option.bind_some,
    readTimeMark, htime, hzone, hbounds.2.1, hday, hvalid, hyear, Bool.and_true]
  rfl

end VariableBridge.Time
