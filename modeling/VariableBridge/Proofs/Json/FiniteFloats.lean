import VariableBridge.Proofs.Json.Encoding
import VariableBridge.Proofs.Number.ShortestDecimals

/-!
# Texts of finite floats

A float is written in digits that round to it, but it is read by a rounded product, which may be
a little greater. Main statements: no product that reading makes of the digits of a finite float
overflows, so the text of every finite float can be read as a float; and the text of any other
float is a null, which cannot.
-/

namespace VariableBridge.Number

/-- Is it a number with a finite magnitude? -/
def Datum.isFinite : Datum → Bool
  | .finite .. => true
  | _ => false

end VariableBridge.Number

namespace VariableBridge.Json

open Number (BinaryFormat Datum Decimal Double IsShort Single shortestDecimal)

/-- The greatest finite float is all significand bits at the greatest exponent. -/
theorem isNumber_greatest : (Double.mk 0x7FEFFFFFFFFFFFFF).IsNumber (2 ^ 53 - 1) 971 :=
  Double.isNumber_of_datum (by decide +kernel)

/-- Is a number rounded to a float that is not below it and whose product with a rounded power of
ten is not above the greatest float? Both are compared as multiples of a small power of two. -/
def fits (bound k : ℕ) : Bool :=
  match (Double.ofNat bound).datum, (powerOfTen k).datum with
  | .finite false m e, .finite false n d =>
    decide (-64 ≤ e ∧ -64 ≤ d ∧
      bound * 2 ^ ((0 : ℤ) + (64 : ℕ)).toNat ≤ m * 2 ^ (e + (64 : ℕ)).toNat ∧
      m * n * 2 ^ (e + d + (128 : ℕ)).toNat ≤ (2 ^ 53 - 1) * 2 ^ ((971 : ℤ) + (128 : ℕ)).toNat)
  | _, _ => false

/-- Numbers compare like multiples of the same power of two, once both exponents are shifted to be
whole. -/
theorem le_of_scaled {a b : ℕ} {e d : ℤ} {s : ℕ} (he : -(s : ℤ) ≤ e) (hd : -(s : ℤ) ≤ d)
    (h : a * 2 ^ (e + s).toNat ≤ b * 2 ^ (d + s).toNat) :
    (a : ℚ) * (2 : ℚ) ^ e ≤ b * (2 : ℚ) ^ d := by
  have hpow : ∀ {i : ℤ}, -(s : ℤ) ≤ i → ((2 ^ (i + s).toNat : ℕ) : ℚ) = (2 : ℚ) ^ i * 2 ^ s := by
    intro i hi
    have hexponent : ((i + s).toNat : ℤ) = i + s := by omega
    rw [Nat.cast_pow, Nat.cast_ofNat, ← zpow_natCast, hexponent, zpow_add₀ two_ne_zero,
      zpow_natCast]
  have hcast : ((a * 2 ^ (e + s).toNat : ℕ) : ℚ) ≤ (b * 2 ^ (d + s).toNat : ℕ) :=
    Nat.cast_le.mpr h
  rw [Nat.cast_mul, Nat.cast_mul, hpow he, hpow hd, ← mul_assoc, ← mul_assoc] at hcast
  exact le_of_mul_le_mul_right hcast (by positivity)

/-- What is not greater than a number that fits is scaled to a finite float. -/
theorem isFinite_of_fits {bound k c : ℕ} (h : fits bound k = true) (hc : c ≤ bound) :
    (Double.ofNat c * powerOfTen k).isFinite = true := by
  unfold fits at h
  split at h
  next m e n d hbound hpower =>
    obtain ⟨he, hd, hround, hproduct⟩ := of_decide_eq_true h
    replace hround := le_of_scaled (by decide) he hround
    replace hproduct := le_of_scaled (by push_cast; omega) (by decide) hproduct
    have hle : (c : ℚ) / (1 : ℕ) ≤ m * (2 : ℚ) ^ e := by
      have hcast : (c : ℚ) ≤ bound := Nat.cast_le.mpr hc
      rw [zpow_zero, mul_one] at hround
      rw [Nat.cast_one, div_one]
      exact hcast.trans hround
    obtain ⟨m', e', hnumber, hupper, _⟩ :=
      Double.isNumber_nearest one_ne_zero (Double.isNumber_of_datum hbound) hle
    have hpositive : (0 : ℚ) ≤ n * (2 : ℚ) ^ d := by positivity
    have hgreatest : (m' : ℚ) * (2 : ℚ) ^ e' * (n * (2 : ℚ) ^ d) ≤
        ((2 ^ 53 - 1 : ℕ) : ℚ) * (2 : ℚ) ^ (971 : ℤ) := by
      calc (m' : ℚ) * (2 : ℚ) ^ e' * (n * (2 : ℚ) ^ d)
          ≤ m * (2 : ℚ) ^ e * (n * (2 : ℚ) ^ d) := mul_le_mul_of_nonneg_right hupper hpositive
        _ = ((m * n : ℕ) : ℚ) * (2 : ℚ) ^ (e + d) := by
            rw [zpow_add₀ two_ne_zero, Nat.cast_mul]
            ring
        _ ≤ ((2 ^ 53 - 1 : ℕ) : ℚ) * (2 : ℚ) ^ (971 : ℤ) := hproduct
    obtain ⟨_, _, hscaled⟩ := Double.isNumber_mul hnumber (Double.isNumber_of_datum hpower)
      isNumber_greatest hgreatest
    exact hscaled.isFinite
  next => cases h

/-- Up to a certain power of ten there is room for all coefficients of shortest decimals. -/
theorem fits_of_lt : ∀ k < 291, fits (2 ^ 59) k = true := by
  decide +kernel

/-- The middle between the two greatest floats that are below the greatest of all. -/
def roomForDecimals : ℕ := (2 ^ 54 - 3) * 2 ^ 970

/-- For the greatest powers of ten there is room for all coefficients whose product stays below the
greatest float. -/
theorem fits_of_ge : ∀ k < 17, fits (roomForDecimals / 10 ^ (k + 292)) (k + 292) = true := by
  decide +kernel

/-- With one power of ten the greatest coefficients are rounded up too far to be bounded by a
number that fits, but there are only nine of them. -/
theorem isFinite_between {c : ℕ} (hc : c ≤ roomForDecimals / 10 ^ 291) :
    (Double.ofNat c * powerOfTen 291).isFinite = true := by
  have hfits : fits 179769313486231552 291 = true := by decide +kernel
  have hlast : ∀ r < 9,
      (Double.ofNat (179769313486231552 + r) * powerOfTen 291).isFinite = true := by
    decide +kernel
  have hroom : roomForDecimals / 10 ^ 291 = 179769313486231552 + 8 := by decide +kernel
  rcases Nat.le_total c 179769313486231552 with hle | hge
  · exact isFinite_of_fits hfits hle
  · obtain ⟨r, rfl⟩ := Nat.exists_eq_add_of_le hge
    rw [hroom] at hc
    exact hlast r (by omega)

/-- A number with at least so many digits that is below a power of ten has fewer digits than that
power. -/
theorem lt_of_ten_pow_le {k n r : ℕ} (h : 10 ^ k ≤ r) (hn : r < 10 ^ n) : k < n :=
  (Nat.pow_lt_pow_iff_right (by decide)).mp (lt_of_le_of_lt h hn)

/-- Scaling a number below this room gives a finite float: the power is in the table, and the
product stays in range. -/
theorem isFinite_mul_powerOfTen {c k : ℕ} (hpos : 0 < c) (hlt : c < 2 ^ 59)
    (hroom : c * 10 ^ k ≤ roomForDecimals) :
    k ≤ largestStep ∧ (Double.ofNat c * powerOfTen k).isFinite = true := by
  have hten : 0 < 10 ^ k := by positivity
  have hdiv : c ≤ roomForDecimals / 10 ^ k := (Nat.le_div_iff_mul_le hten).mpr hroom
  have hk : k < 309 := by
    have hbound : roomForDecimals < 10 ^ 309 := by decide +kernel
    have hle : 10 ^ k ≤ roomForDecimals := (Nat.le_mul_of_pos_left _ hpos).trans hroom
    exact lt_of_ten_pow_le hle hbound
  refine ⟨by change k ≤ 308; omega, ?_⟩
  rcases Nat.lt_trichotomy k 291 with hless | rfl | hgreater
  · exact isFinite_of_fits (fits_of_lt k hless) hlt.le
  · exact isFinite_between hdiv
  · obtain ⟨j, rfl⟩ : ∃ j, k = j + 292 := ⟨k - 292, by omega⟩
    exact isFinite_of_fits (fits_of_ge j (by omega)) hdiv

/-- A significand is scaled by a negative power in any case, and by another one if there is room
for the product. -/
theorem isSome_scale {c : ℕ} {k : ℤ} (hpos : 0 < c) (hlt : c < 2 ^ 59)
    (hroom : 0 ≤ k → c * 10 ^ k.toNat ≤ roomForDecimals) : (scale c k).isSome = true := by
  unfold scale
  by_cases hk : 0 ≤ k
  · obtain ⟨hstep, hfinite⟩ := isFinite_mul_powerOfTen hpos hlt (hroom hk)
    simp only [if_pos hk, if_neg (not_lt.mpr hstep), if_pos hfinite, Option.isSome_some]
  · simp only [if_neg hk, Option.isSome_some]

/-- The digits that are taken into a coefficient leave it below the bound of the coefficients,
however many follow. -/
theorem takeDigits_fst_lt {n : ℕ} (hn : n < significandBound) (digits : List Char) :
    (takeDigits n digits).1 < significandBound := by
  induction digits generalizing n with
  | nil => exact hn
  | cons c rest ih =>
    unfold takeDigits
    dsimp only
    split
    · exact hn
    next hlt => exact ih (not_le.mp hlt)

/-- No more digits are left over than there were, so that the power of ten that makes up for them is
bounded by the text. -/
theorem takeDigits_snd_le (n : ℕ) (digits : List Char) :
    (takeDigits n digits).2 ≤ digits.length := by
  induction digits generalizing n with
  | nil => exact le_rfl
  | cons c rest ih =>
    unfold takeDigits
    dsimp only
    split
    · exact le_rfl
    · exact (ih _).trans (Nat.le_succ _)

/-- Digits do not make a number longer than they are: it stays below the power of ten that they
count. -/
theorem ofDigitChars_lt {digits : List Char} (h : ∀ c ∈ digits, c.isDigit = true) :
    Nat.ofDigitChars 10 digits 0 < 10 ^ digits.length := by
  induction digits using List.reverseRecOn with
  | nil => exact Nat.one_pos
  | append_singleton digits c ih =>
    have hfront := ih fun d hd => h d (List.mem_append_left _ hd)
    have hlast : c.toNat - '0'.toNat ≤ 9 := by
      have hdigit := h c (List.mem_append_right _ (List.mem_singleton_self c))
      simp only [Char.isDigit, Bool.and_eq_true, decide_eq_true_eq] at hdigit
      have hnine : c.toNat ≤ '9'.toNat := hdigit.2
      have hvalue : '9'.toNat = 57 ∧ '0'.toNat = 48 := ⟨rfl, rfl⟩
      omega
    rw [Nat.ofDigitChars_append, Nat.ofDigitChars_cons, Nat.ofDigitChars_nil, List.length_append,
      List.length_singleton, Nat.pow_succ]
    omega

/-- A numeral without a power of ten can be read if its whole part fits into a significand. -/
theorem isSome_toDouble?_of_power_none {n : Numeral} (hpower : n.power = none)
    (hwhole : Nat.ofDigitChars 10 n.whole 0 < significandBound) : n.toDouble?.isSome = true := by
  have htake := takeDigits_of_lt hwhole
  let taken := takeDigits (Nat.ofDigitChars 10 n.whole 0) n.fraction
  have hscaled : n.scaled =
      ⟨taken.1, ((0 : ℕ) : ℤ) - ((n.fraction.length : ℤ) - taken.2)⟩ := by
    unfold Numeral.scaled
    simp only [htake, taken]
  have hignored : taken.2 ≤ n.fraction.length := takeDigits_snd_le _ _
  have hsome : (scale taken.1 (((0 : ℕ) : ℤ) - ((n.fraction.length : ℤ) - taken.2))).isSome =
      true := by
    rcases Nat.lt_or_ge taken.2 n.fraction.length with hlt | hge
    · unfold scale
      rw [if_neg (by omega)]
      rfl
    · have hzero : ((0 : ℕ) : ℤ) - ((n.fraction.length : ℤ) - taken.2) = 0 := by omega
      obtain ⟨x, hx⟩ := exists_scale_of_lt (takeDigits_fst_lt hwhole n.fraction)
      rw [hzero, hx]
      rfl
  unfold Numeral.toDouble?
  simp only [hscaled, hpower, Option.isSome_map, hsome]

/-- The digits before the point are those down to the power zero, and at least one. -/
theorem length_parts (d : Decimal) :
    (d.parts.1.length : ℤ) = max 1 (d.exponent + d.digits.length) := by
  have hpos : 0 < d.digits.length := Nat.length_toDigits_pos
  unfold Decimal.parts
  split
  · simp only [List.length_append, List.length_replicate]
    omega
  · simp only [List.splitAt_eq, List.length_take, List.length_append, List.length_replicate]
    omega

/-- There is no zero in front of other digits: only zero and numbers below one begin with a zero. -/
theorem leading_parts {d : Decimal} (hzero : d.coefficient = 0 → d.exponent ≤ 0)
    (h : d.parts.1.head? = some '0') : d.parts.1 = ['0'] := by
  have hlength := length_parts d
  by_cases hone : d.parts.1.length = 1
  · obtain ⟨c, hc⟩ := List.length_eq_one_iff.mp hone
    rw [hc] at h ⊢
    rw [Option.some.inj h]
  · -- otherwise the digits of the coefficient come first
    have hlong : 1 < d.exponent + d.digits.length := by omega
    have hfirst : d.digits.head? = some '0' := by
      unfold Decimal.parts at h
      split at h
      · have hne : d.digits ≠ [] := Nat.toDigits_ne_nil
        rwa [List.head?_append_of_ne_nil _ hne] at h
      next hneg =>
        have hnone : (-d.exponent).toNat + 1 - d.digits.length = 0 := by omega
        simp only [List.splitAt_eq, hnone, List.replicate_zero, List.nil_append] at h
        rwa [List.head?_take, if_neg (by omega)] at h
    have hdigits : d.digits = ['0'] := toDigits_of_head hfirst
    have hvalue : d.coefficient = 0 := by
      have hread := Nat.ofDigitChars_ten_toDigits (n := d.coefficient)
      change Nat.ofDigitChars 10 d.digits 0 = d.coefficient at hread
      rw [hdigits] at hread
      exact hread.symm
    have hexponent := hzero hvalue
    rw [hdigits, List.length_singleton] at hlong
    omega

/-- The numeral of a decimal has no zeros in front, if zero is written as such. -/
theorem isProper_numeral (s : FloatStyle) (negative : Bool) {d : Decimal}
    (hzero : d.coefficient = 0 → d.exponent ≤ 0) : (s.numeral negative d).IsProper := by
  have hfloat := isFloatNumeral_numeral s negative d
  refine ⟨hfloat.whole_ne_nil, hfloat.whole, ?_, hfloat.fraction, hfloat.power⟩
  intro h
  unfold FloatStyle.numeral at h ⊢
  split at h
  · have hwhole : (positionalNumeral negative d).whole = d.parts.1 := by
      unfold positionalNumeral
      split
      next heq => rw [heq]
      next heq => rw [heq]
    rw [hwhole] at h
    rw [if_pos (by assumption), hwhole]
    exact leading_parts hzero h
  · rw [if_neg (by assumption)]
    change (d.digits.take 1).head? = some '0' at h
    change d.digits.take 1 = ['0']
    cases hdigits : d.digits with
    | nil => exact absurd hdigits Nat.toDigits_ne_nil
    | cons c rest =>
      rw [hdigits] at h
      rw [Option.some.inj h]
      rfl

/-- A positional numeral can be read as a float, if there are not too many digits before the
point. -/
theorem isSome_toDouble?_positional (negative : Bool) {d : Decimal}
    (h : d.exponent + d.digits.length ≤ 19) :
    (positionalNumeral negative d).toDouble?.isSome = true := by
  obtain ⟨_, hdigits, _⟩ := parts_digits d
  have hlength := length_parts d
  have hwhole : (positionalNumeral negative d).whole = d.parts.1 ∧
      (positionalNumeral negative d).power = none := by
    unfold positionalNumeral
    split
    next heq => exact ⟨by rw [heq], rfl⟩
    next heq => exact ⟨by rw [heq], rfl⟩
  refine isSome_toDouble?_of_power_none hwhole.2 ?_
  rw [hwhole.1]
  have hbound : 10 ^ 19 < significandBound := by decide
  have hpow : 10 ^ d.parts.1.length ≤ 10 ^ 19 := Nat.pow_le_pow_right (by decide) (by omega)
  exact (ofDigitChars_lt hdigits).trans (lt_of_le_of_lt hpow hbound)

/-- A numeral with a power of ten is read by scaling the coefficient. -/
theorem toDouble?_scientific (negative : Bool) {d : Decimal} (hlt : d.coefficient < 2 ^ 59)
    (hlow : -400 ≤ d.exponent) (hhigh : d.exponent ≤ 400) :
    (scientificNumeral negative d).toDouble? =
      (scale d.coefficient d.exponent).map (withSign negative) := by
  have hpos : 0 < d.digits.length := Nat.length_toDigits_pos
  have hlength : d.digits.length ≤ 18 := by
    change (Nat.toDigits 10 d.coefficient).length ≤ 18
    rw [Nat.length_toDigits_le_iff (by decide) (by decide)]
    omega
  have hbound : d.coefficient < significandBound := hlt.trans (by decide)
  let first := Nat.ofDigitChars 10 (d.digits.take 1) 0
  have hall : Nat.ofDigitChars 10 (d.digits.drop 1) first = d.coefficient := by
    rw [← Nat.ofDigitChars_append, List.take_append_drop]
    exact Nat.ofDigitChars_ten_toDigits
  have hfirst : first < significandBound := by
    have hle := le_ofDigitChars (d.digits.drop 1) first
    omega
  have htake : takeDigits 0 (d.digits.take 1) = (first, 0) := takeDigits_of_lt hfirst
  have hrest : takeDigits first (d.digits.drop 1) = (d.coefficient, 0) := by
    have hfits : Nat.ofDigitChars 10 (d.digits.drop 1) first < significandBound := by rwa [hall]
    rw [takeDigits_of_lt hfits, hall]
  have hscaled : (scientificNumeral negative d).scaled =
      ⟨d.coefficient, 1 - (d.digits.length : ℤ)⟩ := by
    unfold Numeral.scaled scientificNumeral
    simp only [htake, hrest, List.length_drop, Scaled.mk.injEq, true_and]
    omega
  have hwritten : Number.digitsValue (Nat.toDigits 10 d.leadingExponent.natAbs) =
      d.leadingExponent.natAbs := Nat.ofDigitChars_ten_toDigits
  have hleading : d.leadingExponent = d.exponent + d.digits.length - 1 := rfl
  have hsmall : ¬powerBound ≤ d.leadingExponent.natAbs := by
    change ¬2147483648 ≤ _
    omega
  have hpower : clampedPower (1 - (d.digits.length : ℤ)) (decide (d.leadingExponent < 0))
      d.leadingExponent.natAbs = d.exponent := by
    unfold clampedPower leastPower greatestPower
    simp only [decide_eq_true_eq]
    split <;> omega
  unfold Numeral.toDouble?
  simp only [hscaled]
  unfold scientificNumeral
  simp only [hwritten, if_neg hsmall, hpower]

/-- Is the decimal zero, or one with a coefficient that can be scaled? -/
structure IsScalable (d : Decimal) : Prop where
  /-- Zero is written as such. -/
  zero : d.coefficient = 0 → d.exponent ≤ 0
  /-- There are at most 18 digits. -/
  lt : d.coefficient < 2 ^ 59
  /-- The power of ten is not far below one. -/
  le_exponent : -400 ≤ d.exponent
  /-- It is not far above one either. -/
  exponent_le : d.exponent ≤ 400
  /-- Reading the coefficient with its power of ten does not overflow. -/
  scale : 0 < d.coefficient → (scale d.coefficient d.exponent).isSome = true

/-- The numeral of such a decimal can be read as a float, in any of the notations that the printer
may choose. -/
theorem IsScalable.isSome_toDouble? {d : Decimal} (hd : IsScalable d) {s : FloatStyle}
    (hs : s.greatest ≤ 18) (negative : Bool) :
    (s.numeral negative d).toDouble?.isSome = true := by
  have hleading : d.leadingExponent = d.exponent + d.digits.length - 1 := rfl
  unfold FloatStyle.numeral
  split
  next hplain =>
    refine isSome_toDouble?_positional negative ?_
    rcases hplain with hzero | hmiddle
    · have hexponent := hd.zero hzero
      have hone : d.digits.length = 1 := by
        change (Nat.toDigits 10 d.coefficient).length = 1
        rw [hzero]
        rfl
      omega
    · omega
  next hnot =>
    have hpos : 0 < d.coefficient := Nat.pos_of_ne_zero fun hzero => hnot (.inl hzero)
    rw [toDouble?_scientific negative hd.lt hd.le_exponent hd.exponent_le, Option.isSome_map]
    exact hd.scale hpos

/-- Every short decimal can be scaled whose interval ends below the middle between the two
greatest floats but one. -/
theorem isScalable_of_isShort {m : ℕ} {e : ℤ} {d : Decimal} (hd : IsShort m e d)
    (hroom : ((4 * m + 2 : ℕ) : ℚ) * (2 : ℚ) ^ (e - 2) ≤ roomForDecimals) : IsScalable d where
  zero := fun hzero => absurd hd.pos (by omega)
  lt := hd.lt
  le_exponent := hd.le_exponent
  exponent_le := hd.exponent_le
  scale := by
    intro hpos
    refine isSome_scale hpos hd.lt fun hk => ?_
    have hpower : (10 : ℚ) ^ d.exponent = ((10 ^ d.exponent.toNat : ℕ) : ℚ) := by
      rw [Nat.cast_pow, ← zpow_natCast, Int.toNat_of_nonneg hk]
      rfl
    have hle := hd.value_le.trans hroom
    rw [hpower, ← Nat.cast_mul] at hle
    exact Nat.cast_le.mp hle

/-- The intervals of all numbers but the greatest one end below this middle. -/
theorem le_roomForDecimals {m : ℕ} {e : ℤ} (hlt : m < 2 ^ 53) (he : e ≤ 971)
    (hmax : ¬(m = 2 ^ 53 - 1 ∧ e = 971)) :
    ((4 * m + 2 : ℕ) : ℚ) * (2 : ℚ) ^ (e - 2) ≤ roomForDecimals := by
  obtain ⟨unit, hpos, hunit, hroom⟩ : ∃ unit : ℚ, 0 < unit ∧ (2 : ℚ) ^ (968 : ℤ) = unit ∧
      (roomForDecimals : ℚ) = 18014398509481981 * (unit * 4) := by
    refine ⟨_, zpow_pos two_pos 968, rfl, ?_⟩
    have hfour : (4 : ℚ) = 2 ^ (2 : ℤ) := by norm_num
    unfold roomForDecimals
    rw [Nat.cast_mul, Nat.cast_pow, Nat.cast_ofNat, hfour, ← zpow_add₀ two_ne_zero,
      ← zpow_natCast]
    norm_num only
  rw [hroom]
  by_cases htop : e = 971
  · have hexponent : (2 : ℚ) ^ (e - 2) = unit * 2 := by
      rw [htop, ← hunit, ← zpow_add_one₀ two_ne_zero]
      rfl
    have hm : 4 * m + 2 ≤ 36028797018963962 := by omega
    have hcast : ((4 * m + 2 : ℕ) : ℚ) ≤ 36028797018963962 := by exact_mod_cast hm
    have hproduct := mul_le_mul_of_nonneg_right hcast (by positivity : 0 ≤ unit * 2)
    rw [hexponent]
    linarith only [hproduct, hpos]
  · have hexponent : (2 : ℚ) ^ (e - 2) ≤ unit := by
      rw [← hunit]
      exact zpow_le_zpow_right₀ one_le_two (by omega)
    have hm : 4 * m + 2 ≤ 36028797018963966 := by omega
    have hcast : ((4 * m + 2 : ℕ) : ℚ) ≤ 36028797018963966 := by exact_mod_cast hm
    have hproduct := mul_le_mul hcast hexponent (zpow_pos two_pos _).le (by norm_num)
    linarith only [hproduct, hpos]

/-- The shortest decimal of the greatest float lies beyond this room, but it can be scaled. -/
theorem isScalable_greatest :
    IsScalable (shortestDecimal .binary64 .even (2 ^ 53 - 1) 971) := by
  have hdecimal : shortestDecimal .binary64 .even (2 ^ 53 - 1) 971 =
      ⟨17976931348623157, 292⟩ := by decide +kernel
  rw [hdecimal]
  refine ⟨by decide, by decide, by decide, by decide, fun _ => by decide +kernel⟩

/-- The shortest decimals of all finite floats can be scaled as well, except at the end of the
range. -/
theorem isScalable_shortestDecimal (f : BinaryFormat) {m : ℕ} {e : ℤ} (hlt : m < 2 ^ 53)
    (he : -1074 ≤ e) (he' : e ≤ 971) (hmax : ¬(m = 2 ^ 53 - 1 ∧ e = 971)) :
    IsScalable (shortestDecimal f .even m e) := by
  by_cases hm : m = 0
  · have hdecimal : shortestDecimal f .even m e = ⟨0, 0⟩ := by
      unfold shortestDecimal
      rw [if_pos hm]
    rw [hdecimal]
    exact ⟨fun _ => by decide, by decide, by decide, by decide, fun h => absurd h (by decide)⟩
  · exact isScalable_of_isShort (Number.isShort_shortestDecimal f .even hm hlt he he')
      (le_roomForDecimals hlt he' hmax)

/-- The shortest decimals of all finite codes can be scaled, for floats of 32 and of 64 bits. -/
theorem isScalable_of_decode {f : BinaryFormat} (hf : f = .binary32 ∨ f = .binary64) {code : ℕ}
    {negative : Bool} {m : ℕ} {e : ℤ} (h : f.decode code = .finite negative m e) :
    IsScalable (shortestDecimal f .even m e) := by
  obtain ⟨hcode, hplace⟩ := BinaryFormat.isPlace_of_decode h
  obtain ⟨hfloor, hlt, hfull, heq⟩ := hplace
  -- the exponent is bounded because the code is below that of infinity
  rcases hf with rfl | rfl
  · have hwidths : BinaryFormat.binary32.floorExponent = -149 ∧
        BinaryFormat.binary32.infinityCode = 255 * 2 ^ 23 ∧
        BinaryFormat.binary32.fractionBits = 23 := by decide
    rw [hwidths.1, hwidths.2.2] at hfull heq
    rw [hwidths.1] at hfloor
    rw [hwidths.2.2] at hlt
    rw [hwidths.2.1] at hcode
    exact isScalable_shortestDecimal _ (by omega) (by omega) (by omega) (by omega)
  · have hwidths : BinaryFormat.binary64.floorExponent = -1074 ∧
        BinaryFormat.binary64.infinityCode = 2047 * 2 ^ 52 ∧
        BinaryFormat.binary64.fractionBits = 52 := by decide
    rw [hwidths.1, hwidths.2.2] at hfull heq
    rw [hwidths.1] at hfloor
    rw [hwidths.2.2] at hlt
    rw [hwidths.2.1] at hcode
    by_cases hmax : m = 2 ^ 53 - 1 ∧ e = 971
    · rw [hmax.1, hmax.2]
      exact isScalable_greatest
    · exact isScalable_shortestDecimal _ hlt hfloor (by omega) hmax

/-- The numeral of a finite code is proper, and it can be read as a float. -/
theorem exists_numeral_of_isFinite {s : FloatStyle} (hs : s.greatest ≤ 18) {f : BinaryFormat}
    (hf : f = .binary32 ∨ f = .binary64) {code : ℕ} (h : (f.decode code).isFinite = true) :
    ∃ n, s.value f (f.decode code) = .number n ∧ n.IsProper ∧ IsFloatNumeral n ∧
      n.toDouble?.isSome = true := by
  cases hd : f.decode code with
  | nan => simp [hd, Datum.isFinite] at h
  | infinite negative => simp [hd, Datum.isFinite] at h
  | finite negative m e =>
    have hscalable := isScalable_of_decode hf hd
    exact ⟨_, rfl, isProper_numeral s negative hscalable.zero, isFloatNumeral_numeral s negative _,
      hscalable.isSome_toDouble? hs negative⟩

/-- What is not finite is written as a null: the two infinities and everything that is no number. -/
theorem value_of_not_isFinite (s : FloatStyle) (f : BinaryFormat) {d : Datum}
    (h : d.isFinite = false) : s.value f d = .null := by
  cases d with
  | nan => rfl
  | infinite negative => rfl
  | finite negative m e => cases h

section Codes

variable {s : FloatStyle} {f : BinaryFormat}

/-- Whatever a code stands for, its value can be stored: a null or a numeral that can be read. -/
theorem isStorable_value (hs : s.greatest ≤ 18) (hf : f = .binary32 ∨ f = .binary64) (code : ℕ)
    (depth : ℕ) : (s.value f (f.decode code)).IsStorable depth := by
  cases hfinite : (f.decode code).isFinite with
  | false =>
    rw [value_of_not_isFinite s f hfinite]
    exact ⟨.null, by simp [Value.isSound]⟩
  | true =>
    obtain ⟨n, hn, hproper, _, hsome⟩ := exists_numeral_of_isFinite hs hf hfinite
    rw [hn]
    exact ⟨.number hproper, by simpa only [Value.isSound] using hsome⟩

/-- The value of a code can be read as a float of either width exactly if the code is finite. -/
theorem isSome_read_value (hs : s.greatest ≤ 18) (hf : f = .binary32 ∨ f = .binary64)
    (code : ℕ) :
    (s.value f (f.decode code)).toDouble?.isSome = (f.decode code).isFinite ∧
      (s.value f (f.decode code)).toSingle?.isSome = (f.decode code).isFinite := by
  cases hfinite : (f.decode code).isFinite with
  | false =>
    rw [value_of_not_isFinite s f hfinite]
    exact ⟨rfl, rfl⟩
  | true =>
    obtain ⟨n, hn, _, hfloat, hsome⟩ := exists_numeral_of_isFinite hs hf hfinite
    have hsingle : n.toSingle?.isSome = true := by
      rw [hfloat.toSingle?_eq, Option.isSome_map]
      exact hsome
    rw [hn]
    exact ⟨hsome, hsingle⟩

end Codes

/-- A 32-bit float is storable at any depth, also one that is no number and is written as
nothing. -/
theorem isStorable_single (x : Single) (depth : ℕ) : (ofSingle x).IsStorable depth :=
  isStorable_value (by decide) (.inl rfl) x.bits.toNat depth

/-- A 64-bit float is storable at any depth, also one that is no number and is written as
nothing. -/
theorem isStorable_double (x : Double) (depth : ℕ) : (ofDouble x).IsStorable depth :=
  isStorable_value (by decide) (.inr rfl) x.bits.toNat depth

/-- The value of a 32-bit float can be read exactly if the float is finite. -/
theorem isSome_toSingle?_ofSingle (x : Single) :
    (ofSingle x).toSingle?.isSome = x.datum.isFinite :=
  (isSome_read_value (s := singleStyle) (by decide) (.inl rfl) x.bits.toNat).2

/-- The value of a 64-bit float can be read exactly if the float is finite. -/
theorem isSome_toDouble?_ofDouble (x : Double) :
    (ofDouble x).toDouble?.isSome = x.datum.isFinite :=
  (isSome_read_value (s := doubleStyle) (by decide) (.inr rfl) x.bits.toNat).1

end VariableBridge.Json
