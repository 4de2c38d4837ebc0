import VariableBridge.Proofs.Json.Numerals
import VariableBridge.Toml.Printer
import VariableBridge.Toml.Scalar

/-!
# Numbers read back

Numbers are written to the end of their line. Main statements: an integer that fits into 64
bits reads back there; and a float reads back there if its text reads back at all.
-/

namespace VariableBridge.Toml

open Number (Decimal Double digitsValue)

/-- The text ends, or its line does. -/
def EndsLine (cs : List Char) : Prop := ∀ c ∈ cs.head?, c = '\n'

/-- The end of the text ends its last line, so that a file needs no line break at its end. -/
theorem endsLine_nil : EndsLine [] := by
  intro c hc
  cases hc

/-- A line break ends the line, whatever stands in the lines below it. -/
theorem endsLine_cons (cs : List Char) : EndsLine ('\n' :: cs) := by
  intro c hc
  exact (Option.some.inj hc).symm

/-- The text does not go on with a digit or an underscore. -/
def EndsDigits (cs : List Char) : Prop := ∀ c ∈ cs.head?, c.isDigit = false ∧ c ≠ '_'

/-- Where a line ends its digits end, too: neither a digit nor an underscore follows. -/
theorem EndsLine.endsDigits {cs : List Char} (h : EndsLine cs) : EndsDigits cs := by
  intro c hc
  rw [h c hc]
  decide

/-- Digits are read up to the first character that is none. This must be no underscore, which would
join more digits. -/
theorem readDigits_append {ds rest : List Char} (hne : ds ≠ [])
    (hd : ∀ c ∈ ds, c.isDigit = true) (hr : EndsDigits rest) :
    readDigits Char.isDigit (ds ++ rest) = some (ds, rest) := by
  induction ds with
  | nil => exact absurd rfl hne
  | cons c ds ih =>
    have hc := hd c List.mem_cons_self
    cases ds with
    | nil =>
      cases rest with
      | nil => exact if_pos hc
      | cons d rest =>
        obtain ⟨hdigit, hscore⟩ := hr d rfl
        rw [List.singleton_append, readDigits]
        · rw [if_pos hc, if_neg (by simp [hdigit])]
        · exact hscore
    | cons d ds =>
      have hdigit := hd d (List.mem_cons_of_mem c List.mem_cons_self)
      have hscore : d ≠ '_' := by
        rintro rfl
        cases hdigit
      have hrest := ih (List.cons_ne_nil d ds) fun b hb => hd b (List.mem_cons_of_mem c hb)
      rw [List.cons_append] at hrest
      rw [List.cons_append, List.cons_append, readDigits]
      · rw [if_pos hc, if_pos hdigit, hrest]
        rfl
      · exact hscore

/-- Digits in front of which no zero stands are an integer part. -/
theorem readWhole_append {ds rest : List Char} (hne : ds ≠ [])
    (hd : ∀ c ∈ ds, c.isDigit = true) (hlead : ds.head? = some '0' → ds = ['0'])
    (hr : EndsDigits rest) : readWhole (ds ++ rest) = some (ds, rest) := by
  unfold readWhole
  split
  next tail heq =>
    obtain ⟨c, ds, rfl⟩ := List.exists_cons_of_ne_nil hne
    obtain ⟨rfl, htail⟩ := List.cons.inj heq
    rw [← htail, hlead rfl]
    have hnil : ds = [] := (List.cons.inj (hlead rfl)).2
    rw [hnil]
    rfl
  next => exact readDigits_append hne hd hr

/-- A sign is read in front of digits, and without a sign the number is positive. -/
theorem readSign_append (negative : Bool) {ds : List Char} (hne : ds ≠ [])
    (hd : ∀ c ∈ ds, c.isDigit = true) (rest : List Char) :
    readSign ((if negative then ['-'] else []) ++ (ds ++ rest)) = (negative, ds ++ rest) := by
  cases negative with
  | true => rfl
  | false =>
    obtain ⟨c, ds, rfl⟩ := List.exists_cons_of_ne_nil hne
    have hc := hd c List.mem_cons_self
    unfold readSign
    split
    next heq =>
      obtain rfl := (List.cons.inj heq).1
      cases hc
    next heq =>
      obtain rfl := (List.cons.inj heq).1
      cases hc
    next => rfl

/-- Fewer digits than a number of fixed length has are none, so a short number begins no date. -/
theorem readFixed_short {places : Nat} {ds rest : List Char} (hshort : ds.length < places)
    (hr : ∀ c ∈ rest.head?, c.isDigit = false) : readFixed places (ds ++ rest) = none := by
  unfold readFixed
  refine if_neg fun h => ?_
  obtain ⟨hlength, hall⟩ := h
  cases rest with
  | nil =>
    rw [List.append_nil, List.length_take] at hlength
    omega
  | cons c rest =>
    have hmem : c ∈ (ds ++ c :: rest).take places := by
      rw [List.take_append]
      refine List.mem_append_right _ ?_
      obtain ⟨n, hn⟩ := Nat.exists_eq_add_one_of_ne_zero (Nat.sub_ne_zero_of_lt hshort)
      rw [hn]
      exact List.mem_cons_self
    have hc := List.all_eq_true.mp hall c hmem
    rw [hr c rfl] at hc
    cases hc

/-- A number of fixed length is read from the front of digits, however many of them follow. -/
theorem readFixed_long {places : Nat} {ds : List Char} (hlong : places ≤ ds.length)
    (hd : ∀ c ∈ ds, c.isDigit = true) (rest : List Char) :
    readFixed places (ds ++ rest) =
      some (digitsValue (ds.take places), ds.drop places ++ rest) := by
  unfold readFixed
  rw [List.take_append_of_le_length hlong, List.drop_append_of_le_length hlong]
  refine if_pos ⟨List.length_take_of_le hlong, List.all_eq_true.mpr fun c hc => ?_⟩
  exact hd c (List.mem_of_mem_take hc)

/-- A mark is not taken off a text that begins with another character, or with none. -/
theorem dropText_of_head {mark : Char} {cs : List Char} (h : ∀ c ∈ cs.head?, c ≠ mark) :
    dropText [mark] cs = none := by
  cases cs with
  | nil => rfl
  | cons c cs => exact if_neg (Ne.symm (h c rfl))

/-- The mark behind a number of fixed length is not found in a row of digits. -/
theorem readFixed_mark (places : Nat) (mark : Char) (hmark : mark.isDigit = false)
    {ds rest : List Char} (hd : ∀ c ∈ ds, c.isDigit = true)
    (hr : ∀ c ∈ rest.head?, c.isDigit = false ∧ c ≠ mark) :
    readFixed places (ds ++ rest) = none ∨
      ∃ n after, readFixed places (ds ++ rest) = some (n, after) ∧
        dropText [mark] after = none := by
  rcases Nat.lt_or_ge ds.length places with hshort | hlong
  · exact .inl (readFixed_short hshort fun c hc => (hr c hc).1)
  refine .inr ⟨_, _, readFixed_long hlong hd rest, dropText_of_head ?_⟩
  cases hbehind : ds.drop places with
  | nil => exact fun c hc => (hr c hc).2
  | cons d more =>
    have hdigit := hd d (List.mem_of_mem_drop (hbehind ▸ List.mem_cons_self))
    intro c hc
    obtain rfl : d = c := Option.some.inj hc
    rintro rfl
    rw [hmark] at hdigit
    cases hdigit

/-- A row of digits is no date and no time of day, unless a hyphen or a colon follows it. -/
theorem readMoment_append {ds rest : List Char} (hd : ∀ c ∈ ds, c.isDigit = true)
    (hr : ∀ c ∈ rest.head?, c.isDigit = false ∧ c ≠ '-' ∧ c ≠ ':') :
    readMoment (ds ++ rest) = none := by
  have hdate : readDate (ds ++ rest) = none := by
    unfold readDate
    rcases readFixed_mark 4 '-' rfl hd fun c hc => ⟨(hr c hc).1, (hr c hc).2.1⟩ with
      hnone | ⟨n, after, hread, hdrop⟩
    · rw [hnone]
      rfl
    · rw [hread]
      change (dropText ['-'] after >>= _) = none
      rw [hdrop]
      rfl
  have hclock : readClock (ds ++ rest) = none := by
    unfold readClock
    rcases readFixed_mark 2 ':' rfl hd fun c hc => ⟨(hr c hc).1, (hr c hc).2.2⟩ with
      hnone | ⟨n, after, hread, hdrop⟩
    · rw [hnone]
      rfl
    · rw [hread]
      change (dropText [':'] after >>= _) = none
      rw [hdrop]
      rfl
  unfold readMoment
  rw [hdate]
  exact hclock

/-- What does not begin with a digit is no moment: a sign or a name is none. -/
theorem readMoment_of_head {cs : List Char} (h : ∀ c ∈ cs.head?, c.isDigit = false) :
    readMoment cs = none := by
  have hfixed (places : Nat) (hpos : 0 < places) : readFixed places ([] ++ cs) = none :=
    readFixed_short hpos h
  rw [List.nil_append] at hfixed
  unfold readMoment readDate readClock
  rw [hfixed 4 (by decide), hfixed 2 (by decide)]
  rfl

/-- There is no power of ten at the end of a line, so that a plain number is not read as a scaled
one. -/
theorem readPower_of_endsLine {rest : List Char} (hr : EndsLine rest) : readPower rest = none := by
  cases rest with
  | nil => rfl
  | cons c rest =>
    obtain rfl := hr c rfl
    rfl

/-- There is no fraction at the end of a line, so that an integer is not read as a float. -/
theorem readFraction_of_endsLine {rest : List Char} (hr : EndsLine rest) :
    readFraction rest = none := by
  cases rest with
  | nil => rfl
  | cons c rest =>
    obtain rfl := hr c rfl
    rfl

/-- No named float begins with a digit behind its sign, so names are tried first without harm. -/
theorem readNamedFloat_append (negative : Bool) {ds : List Char} (hne : ds ≠ [])
    (hd : ∀ c ∈ ds, c.isDigit = true) (rest : List Char) :
    readNamedFloat ((if negative then ['-'] else []) ++ (ds ++ rest)) = none := by
  have hsign := readSign_append negative hne hd rest
  obtain ⟨c, ds, rfl⟩ := List.exists_cons_of_ne_nil hne
  have hc := hd c List.mem_cons_self
  have hnone (d : Char) (text : List Char) (hletter : d.isDigit = false) :
      dropText (d :: text) (c :: ds ++ rest) = none := by
    refine if_neg ?_
    rintro rfl
    rw [hletter] at hc
    cases hc
  have hinf : dropText "inf".toList (c :: ds ++ rest) = none := hnone 'i' ['n', 'f'] rfl
  have hnan : dropText "nan".toList (c :: ds ++ rest) = none := hnone 'n' ['a', 'n'] rfl
  unfold readNamedFloat
  rw [hsign]
  dsimp only
  rw [hinf, hnan]

/-- Decimal digits at the end of a line are a decimal integer, if it fits and has no zero in
front. -/
theorem readInteger_append {ds rest : List Char} (hne : ds ≠ [])
    (hd : ∀ c ∈ ds, c.isDigit = true) (hlead : ds.head? = some '0' → ds = ['0'])
    (hr : EndsLine rest) :
    readInteger (ds ++ rest) = (fitInteger (digitsValue ds)).map (·, rest) := by
  -- behind a zero the line ends, so that no base is named
  have hbase (letter : Char) (hletter : letter ≠ '\n') (tail : List Char) :
      ds ++ rest ≠ '0' :: letter :: tail := by
    intro heq
    obtain ⟨c, ds, rfl⟩ := List.exists_cons_of_ne_nil hne
    obtain ⟨rfl, htail⟩ := List.cons.inj heq
    obtain rfl : ds = [] := (List.cons.inj (hlead rfl)).2
    have hrest : rest = letter :: tail := htail
    exact hletter (hr letter (by rw [hrest]; rfl))
  have hsign : readSign (ds ++ rest) = (false, ds ++ rest) := readSign_append false hne hd rest
  have hwhole := readWhole_append hne hd hlead hr.endsDigits
  unfold readInteger
  split
  next heq => exact absurd heq (hbase 'x' (by decide) _)
  next heq => exact absurd heq (hbase 'o' (by decide) _)
  next heq => exact absurd heq (hbase 'b' (by decide) _)
  next =>
    rw [hsign]
    dsimp only
    rw [hwhole, Option.bind_eq_bind, Option.bind_some]
    dsimp only
    rw [if_neg Bool.false_ne_true]
    cases fitInteger (digitsValue ds) with
    | none => rfl
    | some value => rfl

/-- An integer that fits into 64 bits reads back at the end of a line, and is no float and no
date. -/
theorem readNumber_writeNat {n : Nat} (hn : (n : Int) < integerBound) {rest : List Char}
    (hr : EndsLine rest) : readNumber (writeNat n ++ rest) = some (.integer n, rest) := by
  have hne : writeNat n ≠ [] := Nat.toDigits_ne_nil
  have hd : ∀ c ∈ writeNat n, c.isDigit = true := fun c hc => Json.isDigit_of_mem_digits hc
  have hlead : (writeNat n).head? = some '0' → writeNat n = ['0'] := Json.toDigits_of_head
  have hvalue : digitsValue (writeNat n) = n := Nat.ofDigitChars_ten_toDigits
  have hmoment : readMoment (writeNat n ++ rest) = none :=
    readMoment_append hd fun c hc => by
      rw [hr c hc]
      decide
  have hsign : readSign (writeNat n ++ rest) = (false, writeNat n ++ rest) :=
    readSign_append false hne hd rest
  have hwhole := readWhole_append hne hd hlead hr.endsDigits
  have hfloat : readDecimalFloat (writeNat n ++ rest) = none := by
    unfold readDecimalFloat
    simp [hsign, hwhole, readFraction_of_endsLine hr, readPower_of_endsLine hr]
  have hnamed : readNamedFloat (writeNat n ++ rest) = none :=
    readNamedFloat_append false hne hd rest
  have hfits : fitInteger (n : Int) = some (n : Int) := by
    refine if_pos ⟨?_, hn⟩
    unfold integerBound
    omega
  have hinteger : readInteger (writeNat n ++ rest) = some ((n : Int), rest) := by
    rw [readInteger_append hne hd hlead hr, hvalue, hfits]
    rfl
  unfold readNumber
  rw [hmoment, hfloat, hnamed, hinteger]

/-- The float of a number text that holds nothing else. -/
def floatAlone? : Value × List Char → Option Double
  | (.float x, []) => some x
  | _ => none

/-- Does the text of a float read back as the same float? -/
def FloatReadsBack (x : Double) : Prop :=
  (readNumber (writeFloat x)).bind floatAlone? = some x

instance (x : Double) : Decidable (FloatReadsBack x) := inferInstanceAs (Decidable (_ = _))

/-- A float that reads back is read from the whole of its text, with nothing left over behind it. -/
theorem FloatReadsBack.readNumber_eq {x : Double} (h : FloatReadsBack x) :
    readNumber (writeFloat x) = some (.float x, []) := by
  obtain ⟨r, hread, halone⟩ := Option.bind_eq_some_iff.mp h
  rw [hread]
  unfold floatAlone? at halone
  split at halone
  next => rw [Option.some.inj halone]
  next => cases halone

/-- A decimal is written with digits before and behind its point. -/
theorem exists_parts_positional (d : Decimal) :
    ∃ whole fraction, (d.positional ".0").toList = whole ++ '.' :: fraction ∧
      whole ≠ [] ∧ (∀ c ∈ whole, c.isDigit = true) ∧
      fraction ≠ [] ∧ ∀ c ∈ fraction, c.isDigit = true := by
  obtain ⟨hne, hwhole, hfraction⟩ := Json.parts_digits d
  unfold Decimal.positional
  split
  next digits heq =>
    rw [heq] at hne hwhole
    refine ⟨digits, ['0'], by simp, hne, hwhole, List.cons_ne_nil _ _, ?_⟩
    intro c hc
    rw [List.mem_singleton.mp hc]
    rfl
  next digits fraction hnot heq =>
    rw [heq] at hne hwhole hfraction
    refine ⟨digits, fraction, by simp, hne, hwhole, ?_, hfraction⟩
    rintro rfl
    exact hnot rfl

/-- A finite float is written as a decimal behind its sign, with at least one digit behind the
point. -/
theorem writeFloat_of_finite {x : Double} {negative : Bool} {m : Nat} {e : Int}
    (h : x.datum = .finite negative m e) :
    writeFloat x = (if negative then ['-'] else []) ++
      ((Number.shortestDecimal .binary64 .up m e).positional ".0").toList := by
  unfold writeFloat
  rw [h]
  cases negative <;> simp [Number.NumberStyle.render, floatStyle]

/-- Whatever stands behind the end of the line, the same decimal is read in front of it. -/
theorem readDecimalFloat_append (negative : Bool) {whole fraction : List Char}
    (hne : whole ≠ []) (hwhole : ∀ c ∈ whole, c.isDigit = true)
    (hlead : whole.head? = some '0' → whole = ['0'])
    (hfraction : fraction ≠ []) (hdigits : ∀ c ∈ fraction, c.isDigit = true)
    {rest : List Char} (hr : EndsLine rest) :
    readDecimalFloat ((if negative then ['-'] else []) ++ (whole ++ '.' :: (fraction ++ rest))) =
      let x := Double.ofDecimal negative (digitsValue (whole ++ fraction)) (0 - fraction.length)
      if x = Double.ofDatum (.infinite false) then none else some (x, rest) := by
  have hsign := readSign_append negative hne hwhole ('.' :: (fraction ++ rest))
  have hpoint : EndsDigits ('.' :: (fraction ++ rest)) := by
    intro c hc
    obtain rfl : '.' = c := Option.some.inj hc
    decide
  have hread := readWhole_append hne hwhole hlead hpoint
  have hbehind : readFraction ('.' :: (fraction ++ rest)) = some (fraction, rest) :=
    readDigits_append hfraction hdigits hr.endsDigits
  unfold readDecimalFloat
  simp [hsign, hread, hbehind, readPower_of_endsLine hr]

/-- Digits behind a zero are no decimal, as numbers may not begin with a zero in front of digits. -/
theorem readDecimalFloat_of_leading_zero (negative : Bool) {whole : List Char}
    (hwhole : ∀ c ∈ whole, c.isDigit = true) (hzero : whole.head? = some '0')
    (hlong : whole ≠ ['0']) (rest : List Char) :
    readDecimalFloat ((if negative then ['-'] else []) ++ (whole ++ rest)) = none := by
  obtain ⟨tail, rfl⟩ : ∃ tail, whole = '0' :: tail := by
    cases whole with
    | nil => cases hzero
    | cons c tail => exact ⟨tail, by rw [Option.some.inj hzero]⟩
  cases tail with
  | nil => exact absurd rfl hlong
  | cons d tail =>
    have hsign := readSign_append negative (List.cons_ne_nil '0' (d :: tail)) hwhole rest
    have hd : d.isDigit = true := hwhole d (List.mem_cons_of_mem '0' List.mem_cons_self)
    have hread : readWhole ('0' :: d :: tail ++ rest) = some (['0'], d :: (tail ++ rest)) := rfl
    have hfraction : readFraction (d :: (tail ++ rest)) = none := by
      unfold readFraction
      split
      next heq =>
        obtain rfl := (List.cons.inj heq).1
        cases hd
      next => rfl
    have hpower : readPower (d :: (tail ++ rest)) = none := by
      refine if_neg ?_
      rintro (rfl | rfl)
      · cases hd
      · cases hd
    unfold readDecimalFloat
    rw [hsign]
    dsimp only
    rw [hread, Option.bind_eq_bind, Option.bind_some]
    dsimp only
    rw [hfraction, hpower]
    rfl

/-- A number that is read as a float is read as a named one or as a decimal. -/
theorem readDecimalFloat_of_readNumber {cs : List Char} {x : Double} {rest : List Char}
    (hnamed : readNamedFloat cs = none) (h : readNumber cs = some (.float x, rest)) :
    readDecimalFloat cs = some (x, rest) := by
  unfold readNumber at h
  rw [hnamed] at h
  split at h
  next => cases h
  next hfloat =>
    rw [hfloat]
    cases h
    rfl
  next heq => cases heq
  next => cases h
  next => cases h

/-- A decimal behind its sign is no moment: a point comes where a date has a hyphen and a time a
colon. -/
theorem readMoment_decimal (negative : Bool) {whole : List Char}
    (hwhole : ∀ c ∈ whole, c.isDigit = true) (rest : List Char) :
    readMoment ((if negative then ['-'] else []) ++ (whole ++ '.' :: rest)) = none := by
  cases negative with
  | true =>
    refine readMoment_of_head fun c hc => ?_
    obtain rfl : '-' = c := Option.some.inj hc
    rfl
  | false =>
    change readMoment (whole ++ '.' :: rest) = none
    refine readMoment_append hwhole fun c hc => ?_
    obtain rfl : '.' = c := Option.some.inj hc
    decide

/-- The text of a finite float is the same decimal at the end of any line. -/
theorem readNumber_writeFloat_of_finite {x : Double} {negative : Bool} {m : Nat} {e : Int}
    (hdatum : x.datum = .finite negative m e) (h : FloatReadsBack x) {rest : List Char}
    (hr : EndsLine rest) : readNumber (writeFloat x ++ rest) = some (.float x, rest) := by
  obtain ⟨whole, fraction, htext, hne, hwhole, hfraction, hdigits⟩ :=
    exists_parts_positional (Number.shortestDecimal .binary64 .up m e)
  have halone := h.readNumber_eq
  rw [writeFloat_of_finite hdatum, htext] at halone ⊢
  have hdecimal := readDecimalFloat_of_readNumber
    (readNamedFloat_append negative hne hwhole ('.' :: fraction)) halone
  have hlead : whole.head? = some '0' → whole = ['0'] := by
    intro hzero
    by_contra hlong
    rw [readDecimalFloat_of_leading_zero negative hwhole hzero hlong] at hdecimal
    cases hdecimal
  have hread {rest : List Char} (hr : EndsLine rest) :=
    readDecimalFloat_append negative hne hwhole hlead hfraction hdigits hr
  have hempty := hread endsLine_nil
  rw [List.append_nil, hdecimal] at hempty
  have hline : readDecimalFloat ((if negative then ['-'] else []) ++
      (whole ++ '.' :: (fraction ++ rest))) = some (x, rest) := by
    rw [hread hr]
    dsimp only at hempty ⊢
    split at hempty
    next => cases hempty
    next hfinite =>
      rw [if_neg hfinite, (Prod.mk.inj (Option.some.inj hempty)).1]
  rw [List.append_assoc, List.append_assoc, List.cons_append]
  unfold readNumber
  rw [readMoment_decimal negative hwhole, hline]

/-- What is no number is named so, and its name reads back as a code that is no number. -/
theorem readNumber_nan (rest : List Char) :
    readNumber ("nan".toList ++ rest) = some (.float (Double.ofDatum .nan), rest) := by
  have hmoment : readMoment ("nan".toList ++ rest) = none := by
    refine readMoment_of_head fun c hc => ?_
    obtain rfl : 'n' = c := Option.some.inj hc
    rfl
  have hdecimal : readDecimalFloat ("nan".toList ++ rest) = none := rfl
  have hnamed : readNamedFloat ("nan".toList ++ rest) = some (Double.ofDatum .nan, rest) := rfl
  unfold readNumber
  rw [hmoment, hdecimal, hnamed]

/-- What is infinite is named behind its sign, and its name reads back with the sign. -/
theorem readNumber_infinite (negative : Bool) (rest : List Char) :
    readNumber (((if negative then "-" else "") ++ "inf").toList ++ rest) =
      some (.float (Double.ofDatum (.infinite negative)), rest) := by
  have hmoment : readMoment (((if negative then "-" else "") ++ "inf").toList ++ rest) = none := by
    refine readMoment_of_head fun c hc => ?_
    cases negative with
    | true =>
      obtain rfl : '-' = c := Option.some.inj hc
      rfl
    | false =>
      obtain rfl : 'i' = c := Option.some.inj hc
      rfl
  have hdecimal :
      readDecimalFloat (((if negative then "-" else "") ++ "inf").toList ++ rest) = none := by
    cases negative <;> rfl
  have hnamed : readNamedFloat (((if negative then "-" else "") ++ "inf").toList ++ rest) =
      some (Double.ofDatum (.infinite negative), rest) := by
    cases negative <;> rfl
  unfold readNumber
  rw [hmoment, hdecimal, hnamed]

/-- A float whose text reads back at all reads back at the end of a line. -/
theorem readNumber_writeFloat {x : Double} (h : FloatReadsBack x) {rest : List Char}
    (hr : EndsLine rest) : readNumber (writeFloat x ++ rest) = some (.float x, rest) := by
  -- a name is read as the same float, whatever follows it
  have hname {text : List Char} {y : Double} (htext : writeFloat x = text)
      (hread : ∀ rest, readNumber (text ++ rest) = some (.float y, rest)) :
      readNumber (writeFloat x ++ rest) = some (.float x, rest) := by
    have halone := h.readNumber_eq
    have hempty := hread []
    rw [List.append_nil, ← htext, halone] at hempty
    obtain rfl : x = y := Value.float.inj (Prod.mk.inj (Option.some.inj hempty)).1
    rw [htext, hread]
  cases hdatum : x.datum with
  | nan => exact hname (by rw [writeFloat, hdatum]; rfl) readNumber_nan
  | infinite negative =>
    exact hname (by rw [writeFloat, hdatum]; rfl) (readNumber_infinite negative)
  | finite negative m e => exact readNumber_writeFloat_of_finite hdatum h hr

example : FloatReadsBack (Double.nearest true 1 10) := by decide +kernel

end VariableBridge.Toml
