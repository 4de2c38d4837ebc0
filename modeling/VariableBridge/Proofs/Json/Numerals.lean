import VariableBridge.Json.Decoding
import VariableBridge.Proofs.Json.RoundTrip
import VariableBridge.Proofs.Number.Rounding

/-!
# Numerals of numbers

Integers and floats are written as numerals of the grammar. Main statements: an
integer of 64 bits reads back and can also be read as a float; and a float whose
text reads back at all is written as a proper value that decodes to it.
-/

namespace VariableBridge.Json

open Number (Single Double Decimal)

/-- The digits of a natural number are digits, which is what a reader of numerals asks for. -/
theorem isDigit_of_mem_digits {n : Nat} {c : Char} (hc : c ∈ Nat.toDigits 10 n) :
    c.isDigit = true :=
  Nat.isDigit_of_mem_toDigits (by decide) (by decide) hc

/-- Only zero is written with a zero in front, so integers never begin with a digit that the grammar
refuses. -/
theorem toDigits_of_head {n : Nat} (h : (Nat.toDigits 10 n).head? = some '0') :
    Nat.toDigits 10 n = ['0'] := by
  induction n using Nat.strongRecOn with
  | _ n ih =>
    rcases Nat.lt_or_ge n 10 with hlt | hge
    · rw [Nat.toDigits_of_lt_base hlt] at h ⊢
      rw [Option.some.inj h]
    · -- the digits in front are those of the tenth part, which is not zero
      have hfront := Nat.toDigits_of_base_le (b := 10) (by decide) hge
      rw [hfront, List.head?_append_of_ne_nil _ Nat.toDigits_ne_nil] at h
      have hzero := ih (n / 10) (by omega) h
      have hvalue : n / 10 = 0 := by
        have hread := Nat.ofDigitChars_ten_toDigits (n := n / 10)
        rw [hzero] at hread
        exact hread.symm
      omega

/-- An integer in its shortest digits is a proper numeral, with a sign or without one. -/
theorem isProper_integer (negative : Bool) (n : Nat) :
    (Numeral.mk negative (Nat.toDigits 10 n) [] none).IsProper where
  whole_ne_nil := Nat.toDigits_ne_nil
  whole := fun _ => isDigit_of_mem_digits
  leading := toDigits_of_head
  fraction := fun _ hc => absurd hc List.not_mem_nil
  power := fun _ hp => absurd hp (by simp)

/-- An integer is the number that is written for it, with its sign. -/
theorem toInt?_ofInt (n : Int) : (Numeral.ofInt n).toInt? = some n := by
  have hread := Nat.ofDigitChars_ten_toDigits (n := n.natAbs)
  unfold Numeral.toInt? Numeral.ofInt Numeral.isInteger Number.digitsValue
  simp only [List.isEmpty_nil, Option.isNone_none, Bool.and_self, if_true, hread]
  rcases lt_or_ge n 0 with hneg | hpos
  · rw [decide_eq_true hneg, if_pos rfl, if_neg (by omega)]
    congr 1
    omega
  · rw [decide_eq_false (not_lt.mpr hpos), if_neg (by decide)]
    congr 1
    omega

/-- To read more digits makes a number no smaller, so that the digits in front bound it from
below. -/
theorem le_ofDigitChars (digits : List Char) (n : Nat) : n ≤ Nat.ofDigitChars 10 digits n := by
  rw [Nat.ofDigitChars_eq_ofDigitChars_zero]
  have hpow : 0 < 10 ^ digits.length := by positivity
  have hle : n ≤ 10 ^ digits.length * n := Nat.le_mul_of_pos_left n hpow
  omega

/-- Digits of a number of 64 bits all fit into a significand, so none of them is dropped in
reading. -/
theorem takeDigits_of_lt {digits : List Char} {n : Nat}
    (h : Nat.ofDigitChars 10 digits n < significandBound) :
    takeDigits n digits = (Nat.ofDigitChars 10 digits n, 0) := by
  induction digits generalizing n with
  | nil => rfl
  | cons c rest ih =>
    rw [Nat.ofDigitChars_cons, Nat.mul_comm] at h ⊢
    have hle := le_ofDigitChars rest (n * 10 + (c.toNat - '0'.toNat))
    unfold takeDigits
    dsimp only
    rw [if_neg (by omega)]
    exact ih h

/-- A number of 64 bits is scaled by one without becoming infinite. -/
theorem exists_scale_of_lt {n : Nat} (hn : n < significandBound) : ∃ x, scale n 0 = some x := by
  obtain ⟨m, e, hnumber, hle, _⟩ := Double.isNumber_ofNat (n := n) hn
  have hone : ((2 ^ 52 : Nat) : ℚ) * (2 : ℚ) ^ (-52 : ℤ) = 1 := by norm_num
  have hbound : ((2 ^ 52 : Nat) : ℚ) * (2 : ℚ) ^ (12 : ℤ) = 2 ^ 64 := by norm_num
  have hproduct : (m : ℚ) * (2 : ℚ) ^ e * (((2 ^ 52 : Nat) : ℚ) * (2 : ℚ) ^ (-52 : ℤ)) ≤
      ((2 ^ 52 : Nat) : ℚ) * (2 : ℚ) ^ (12 : ℤ) := by
    rw [hone, hbound, mul_one]
    exact hle
  obtain ⟨m', e', hscaled⟩ :=
    Double.isNumber_mul hnumber Double.isNumber_one Double.isNumber_wordBound hproduct
  refine ⟨Double.ofNat n * powerOfTen 0, ?_⟩
  unfold scale
  have hfinite : (Double.ofNat n * powerOfTen 0).isFinite = true := hscaled.isFinite
  simp only [le_refl, if_true, Int.toNat_zero, Nat.not_lt_zero, if_false, hfinite]

/-- An integer of 64 bits may also be read as a float, which is the nearest one. -/
theorem isSome_toDouble?_integer (negative : Bool) {n : Nat} (hn : n < significandBound) :
    (Numeral.mk negative (Nat.toDigits 10 n) [] none).toDouble?.isSome = true := by
  have hread := Nat.ofDigitChars_ten_toDigits (n := n)
  have htake : takeDigits 0 (Nat.toDigits 10 n) = (n, 0) := by
    have hlt : Nat.ofDigitChars 10 (Nat.toDigits 10 n) 0 < significandBound := by rwa [hread]
    rw [takeDigits_of_lt hlt, hread]
  obtain ⟨x, hx⟩ := exists_scale_of_lt hn
  have hscaled : (Numeral.mk negative (Nat.toDigits 10 n) [] none).scaled = ⟨n, 0⟩ := by
    unfold Numeral.scaled
    simp only [htake]
    rfl
  unfold Numeral.toDouble?
  simp only [hscaled, hx, Option.map_some, Option.isSome_some]

/-- The digits of a decimal are digits, as those of a natural number are. -/
theorem isDigit_of_mem_decimal {d : Decimal} {c : Char} (hc : c ∈ d.digits) : c.isDigit = true :=
  isDigit_of_mem_digits hc

/-- Zeros that fill up a numeral are digits, so that they may stand on either side of the point. -/
theorem isDigit_of_mem_replicate {n : Nat} {c : Char} (hc : c ∈ List.replicate n '0') :
    c.isDigit = true := by
  rw [(List.mem_replicate.mp hc).2]
  rfl

/-- Both parts of a decimal are digits, and there are some before the point. -/
theorem parts_digits (d : Decimal) :
    d.parts.1 ≠ [] ∧ (∀ c ∈ d.parts.1, c.isDigit = true) ∧ ∀ c ∈ d.parts.2, c.isDigit = true := by
  have hdigits : d.digits ≠ [] := Nat.toDigits_ne_nil
  unfold Decimal.parts
  split
  · refine ⟨by simp [hdigits], ?_, fun _ hc => absurd hc List.not_mem_nil⟩
    intro c hc
    rcases List.mem_append.mp hc with hc | hc
    · exact isDigit_of_mem_decimal hc
    · exact isDigit_of_mem_replicate hc
  · let places := (-d.exponent).toNat
    let padded := List.replicate (places + 1 - d.digits.length) '0' ++ d.digits
    have hpadded : ∀ c ∈ padded, c.isDigit = true := by
      intro c hc
      rcases List.mem_append.mp hc with hc | hc
      · exact isDigit_of_mem_replicate hc
      · exact isDigit_of_mem_decimal hc
    have hlong : places + 1 ≤ padded.length := by
      simp only [padded, List.length_append, List.length_replicate]
      omega
    simp only [List.splitAt_eq]
    refine ⟨?_, fun c hc => hpadded c (List.mem_of_mem_take hc),
      fun c hc => hpadded c (List.mem_of_mem_drop hc)⟩
    intro hempty
    have hlength := congrArg List.length hempty
    change (padded.take (padded.length - places)).length = 0 at hlength
    rw [List.length_take] at hlength
    omega

/-- Does the numeral follow the grammar, but for zeros in front, without being an integer? -/
structure IsFloatNumeral (n : Numeral) : Prop where
  /-- There are digits before the point. -/
  whole_ne_nil : n.whole ≠ []
  /-- There are only digits before the point. -/
  whole : ∀ c ∈ n.whole, c.isDigit = true
  /-- There are only digits behind the point. -/
  fraction : ∀ c ∈ n.fraction, c.isDigit = true
  /-- A power of ten has digits. -/
  power : ∀ p ∈ n.power, p.2 ≠ [] ∧ ∀ c ∈ p.2, c.isDigit = true
  /-- There is a point or a power of ten. -/
  isInteger : n.isInteger = false

/-- A decimal that is written with a point is a numeral that is read as a float. -/
theorem isFloatNumeral_positional (negative : Bool) (d : Decimal) :
    IsFloatNumeral (positionalNumeral negative d) := by
  obtain ⟨hne, hwhole, hfraction⟩ := parts_digits d
  unfold positionalNumeral
  split
  next digits heq =>
    rw [heq] at hne hwhole
    refine ⟨hne, hwhole, ?_, fun _ hp => absurd hp (by simp), rfl⟩
    intro c hc
    rw [List.mem_singleton.mp hc]
    rfl
  next digits fraction hnot heq =>
    rw [heq] at hne hwhole hfraction
    refine ⟨hne, hwhole, hfraction, fun _ hp => absurd hp (by simp), ?_⟩
    cases fraction with
    | nil => exact absurd rfl hnot
    | cons c cs => rfl

/-- A decimal that is written with a power of ten is a numeral that is read as a float. -/
theorem isFloatNumeral_scientific (negative : Bool) (d : Decimal) :
    IsFloatNumeral (scientificNumeral negative d) := by
  refine ⟨?_, ?_, ?_, ?_, Bool.and_false _⟩
  · intro hempty
    have hlength := congrArg List.length hempty
    have hpos : 0 < d.digits.length := Nat.length_toDigits_pos
    change (d.digits.take 1).length = 0 at hlength
    rw [List.length_take] at hlength
    omega
  · intro c hc
    exact isDigit_of_mem_decimal (List.mem_of_mem_take hc)
  · intro c hc
    exact isDigit_of_mem_decimal (List.mem_of_mem_drop hc)
  · intro p hp
    obtain rfl := Option.some.inj hp
    exact ⟨Nat.toDigits_ne_nil, fun _ => isDigit_of_mem_digits⟩

/-- In every style a decimal is written as a numeral that is read as a float. -/
theorem isFloatNumeral_numeral (s : FloatStyle) (negative : Bool) (d : Decimal) :
    IsFloatNumeral (s.numeral negative d) := by
  unfold FloatStyle.numeral
  split
  · exact isFloatNumeral_positional negative d
  · exact isFloatNumeral_scientific negative d

/-- A numeral whose text can be read has no zeros in front, so of the numerals of floats only proper
ones are read. -/
theorem IsFloatNumeral.isProper {n : Numeral} (hn : IsFloatNumeral n)
    (h : (parse (print (.number n))).isSome = true) : n.IsProper := by
  refine ⟨hn.whole_ne_nil, hn.whole, ?_, hn.fraction, hn.power⟩
  intro hzero
  by_contra hlong
  have hnone := readNumeral_of_leading_zero hn.whole hzero hlong delimited_nil
  obtain ⟨c, cs, hc, hhead⟩ := exists_head_writeNumeral hn.whole_ne_nil hn.whole
  rw [List.append_nil] at hnone
  have hvalue : readValue (budgetFor (writeNumeral n)) (writeNumeral n) = none := by
    rw [hc] at hnone ⊢
    change readValue (2 * (c :: cs).length + 1 + 1) (c :: cs) = none
    rw [readValue_of_numeral_head hhead, hnone]
    rfl
  have hparse : parse (print (.number n)) = none := by
    have htext : (print (.number n)).toList = writeNumeral n := String.toList_ofList
    unfold parse
    simp only [htext, hvalue]
  rw [hparse] at h
  cases h

/-- Does the JSON text of a 32-bit float read back as the same float? -/
def SingleReadsBack (x : Single) : Prop :=
  (parse (print (ofSingle x))).bind Value.toSingle? = some x

/-- Does the JSON text of a 64-bit float read back as the same float? -/
def DoubleReadsBack (x : Double) : Prop :=
  (parse (print (ofDouble x))).bind Value.toDouble? = some x

instance (x : Single) : Decidable (SingleReadsBack x) := inferInstanceAs (Decidable (_ = _))

instance (x : Double) : Decidable (DoubleReadsBack x) := inferInstanceAs (Decidable (_ = _))

/-- Only the numeral of a finite float reads back, and it reads back as a proper one. -/
theorem FloatStyle.exists_numeral {s : FloatStyle} {f : Number.BinaryFormat} {d : Number.Datum}
    {α : Type} (decode : Value → Option α) {a : α} (hnull : decode .null = none)
    (h : (parse (print (s.value f d))).bind decode = some a) :
    ∃ n, s.value f d = .number n ∧ IsFloatNumeral n ∧ n.IsProper ∧ decode (.number n) = some a := by
  have hnothing : (parse (print .null)).bind decode = none := by rw [parse_print .null]; exact hnull
  cases d with
  | finite negative m e =>
    let n := s.numeral negative (Number.shortestDecimal f .even m e)
    have hfloat : IsFloatNumeral n := isFloatNumeral_numeral s negative _
    have hsome : (parse (print (.number n))).isSome = true := by
      cases hparse : parse (print (.number n)) with
      | some v => rfl
      | none =>
        change (parse (print (.number n))).bind decode = some a at h
        rw [hparse] at h
        cases h
    have hproper := hfloat.isProper hsome
    refine ⟨n, rfl, hfloat, hproper, ?_⟩
    change (parse (print (.number n))).bind decode = some a at h
    rwa [parse_print (.number hproper)] at h
  | infinite negative => exact absurd (hnothing.symm.trans h) (by simp)
  | nan => exact absurd (hnothing.symm.trans h) (by simp)

/-- A 64-bit float that reads back is written as a proper numeral, and this numeral is read as the
same float. -/
theorem DoubleReadsBack.exists_numeral {x : Double} (h : DoubleReadsBack x) :
    ∃ n, ofDouble x = .number n ∧ n.IsProper ∧ n.toDouble? = some x := by
  obtain ⟨n, hn, _, hproper, hread⟩ := FloatStyle.exists_numeral Value.toDouble? rfl h
  exact ⟨n, hn, hproper, hread⟩

/-- What is no integer is read as a 32-bit float by way of a 64-bit float. -/
theorem IsFloatNumeral.toSingle?_eq {n : Numeral} (hn : IsFloatNumeral n) :
    n.toSingle? = n.toDouble?.map Double.toSingle := by
  have hint : n.toInt? = none := by
    unfold Numeral.toInt?
    rw [if_neg]
    rw [hn.isInteger]
    exact Bool.false_ne_true
  unfold Numeral.toSingle? Numeral.isWordInteger
  rw [hint]

/-- A 32-bit float that reads back is written as a proper numeral that is read as the same float,
and that also has a 64-bit value. -/
theorem SingleReadsBack.exists_numeral {x : Single} (h : SingleReadsBack x) :
    ∃ n, ofSingle x = .number n ∧ n.IsProper ∧ n.toSingle? = some x ∧
      n.toDouble?.isSome = true := by
  obtain ⟨n, hn, hfloat, hproper, hread⟩ :=
    FloatStyle.exists_numeral Value.toSingle? rfl h
  have hread : n.toSingle? = some x := hread
  refine ⟨n, hn, hproper, hread, ?_⟩
  rw [hfloat.toSingle?_eq] at hread
  cases hdouble : n.toDouble? with
  | some y => rfl
  | none =>
    rw [hdouble] at hread
    cases hread

end VariableBridge.Json
