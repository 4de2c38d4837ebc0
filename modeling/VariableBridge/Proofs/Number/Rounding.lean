import Mathlib.Algebra.Order.Field.Power
import Mathlib.Data.Nat.Log
import Mathlib.Tactic.FieldSimp
import Mathlib.Tactic.Linarith
import Mathlib.Tactic.NormNum
import Mathlib.Tactic.Positivity
import Mathlib.Tactic.Ring
import VariableBridge.Number.Arithmetic

/-!
# Rounding to the nearest code

A finite code is a mantissa times a power of two, and greater codes are greater
numbers. Main statements: a ratio that is not above the number of a code is not
rounded above this code, and one that is not below it is not rounded below it;
hence results between two finite numbers are finite.
-/

namespace VariableBridge.Number

/-- A whole number above a ratio is not below the ratio rounded. -/
theorem roundHalfEven_le {num den k : Nat} (hd : 0 < den) (h : num ≤ k * den) :
    roundHalfEven num den ≤ k := by
  have hdiv := Nat.div_add_mod num den
  have hmod := Nat.mod_lt num hd
  have hq : num / den ≤ k := by
    have hle := Nat.div_le_div_right (c := den) h
    rwa [Nat.mul_div_cancel k hd] at hle
  unfold roundHalfEven
  rcases Nat.lt_or_ge (num / den) k with hlt | hge
  · dsimp only
    split
    · omega
    · split <;> omega
  · -- the ratio is the whole number itself
    have heq : num / den = k := by omega
    have hrest : num % den = 0 := by
      rw [heq, Nat.mul_comm] at hdiv
      omega
    dsimp only
    rw [hrest, if_pos (by omega), heq]

/-- A whole number below a ratio is not above the ratio rounded. -/
theorem le_roundHalfEven {num den k : Nat} (hd : 0 < den) (h : k * den ≤ num) :
    k ≤ roundHalfEven num den := by
  have hq : k ≤ num / den := (Nat.le_div_iff_mul_le hd).mpr h
  unfold roundHalfEven
  dsimp only
  split
  · omega
  · split <;> omega

/-- Scaling up by an exponent is a product with a power of two, and leaves the number alone if the
exponent is negative. -/
theorem scaleUp_eq (n : Nat) (e : Int) : scaleUp n e = n * 2 ^ e.toNat := by
  rw [scaleUp, Nat.shiftLeft_eq]

/-- The two scaled sides of a ratio give the ratio divided by the power of two. -/
theorem scaleUp_div (num den : Nat) (e : Int) :
    (scaleUp num (-e) : ℚ) / (scaleUp den e : ℚ) = (num : ℚ) / den / (2 : ℚ) ^ e := by
  rw [scaleUp_eq, scaleUp_eq]
  push_cast
  rcases le_total 0 e with he | he
  · lift e to ℕ using he
    have hz : (-(e : ℤ)).toNat = 0 := by omega
    rw [hz, Int.toNat_natCast, zpow_natCast, pow_zero, mul_one, div_div]
  · obtain ⟨k, rfl⟩ : ∃ k : ℕ, e = -(k : ℤ) := ⟨(-e).toNat, by omega⟩
    have hz : (-(k : ℤ)).toNat = 0 := by omega
    rw [hz, neg_neg, Int.toNat_natCast, zpow_neg, zpow_natCast, pow_zero, mul_one, div_inv_eq_mul,
      div_mul_eq_mul_div]

namespace BinaryFormat

variable {f : BinaryFormat}

/-- The number of a magnitude is this mantissa times this power of two. -/
structure IsPlace (f : BinaryFormat) (code mantissa : Nat) (exponent : Int) : Prop where
  /-- The exponent is not below the least one. -/
  floor_le : f.floorExponent ≤ exponent
  /-- The mantissa has at most one bit more than are stored. -/
  lt : mantissa < 2 ^ (f.fractionBits + 1)
  /-- Above the least exponent it has all of its bits. -/
  full : f.floorExponent < exponent → 2 ^ f.fractionBits ≤ mantissa
  /-- Exponent and mantissa make up the code. -/
  code_eq : code = (exponent - f.floorExponent).toNat * 2 ^ f.fractionBits + mantissa

/-- The bits of infinity lie below the bit of the sign, so that a sign never changes the
magnitude. -/
theorem infinityCode_lt_signCode (f : BinaryFormat) : f.infinityCode < f.signCode := by
  have he : 0 < 2 ^ f.exponentBits := by positivity
  have hp : 0 < 2 ^ f.fractionBits := by positivity
  have hlt : (2 ^ f.exponentBits - 1) * 2 ^ f.fractionBits <
      2 ^ f.exponentBits * 2 ^ f.fractionBits :=
    Nat.mul_lt_mul_of_pos_right (by omega) hp
  rw [infinityCode, signCode, Nat.shiftLeft_eq, Nat.shiftLeft_eq, Nat.shiftLeft_eq, one_mul,
    one_mul, Nat.pow_add, Nat.mul_comm (2 ^ f.fractionBits)]
  exact hlt

/-- Field and fraction of a code give its place: subnormal with field zero, else with the hidden
bit. -/
theorem isPlace_of_fields (f : BinaryFormat) (code : Nat) :
    f.IsPlace code
      (if code / 2 ^ f.fractionBits = 0 then code % 2 ^ f.fractionBits
        else 2 ^ f.fractionBits + code % 2 ^ f.fractionBits)
      (f.floorExponent + (code / 2 ^ f.fractionBits - 1 : Nat)) := by
  have hp : 0 < 2 ^ f.fractionBits := by positivity
  have hdiv := Nat.div_add_mod' code (2 ^ f.fractionBits)
  have hmod := Nat.mod_lt code hp
  have hpow : 2 ^ (f.fractionBits + 1) = 2 * 2 ^ f.fractionBits := by
    rw [Nat.pow_succ, Nat.mul_comm]
  rcases Nat.eq_zero_or_pos (code / 2 ^ f.fractionBits) with hz | hpos
  · refine ⟨by omega, ?_, ?_, ?_⟩
    · rw [if_pos hz]
      omega
    · rw [hz]
      omega
    · rw [if_pos hz, hz]
      rw [hz] at hdiv
      simpa using hdiv.symm
  · have hne : code / 2 ^ f.fractionBits ≠ 0 := by omega
    obtain ⟨k, hk⟩ : ∃ k, code / 2 ^ f.fractionBits = k + 1 := ⟨_, (Nat.succ_pred hne).symm⟩
    refine ⟨by omega, ?_, ?_, ?_⟩
    · rw [if_neg hne]
      omega
    · intro _
      rw [if_neg hne]
      omega
    · have hexp : (f.floorExponent + ((k + 1 - 1 : Nat) : Int) - f.floorExponent).toNat = k := by
        omega
      rw [if_neg hne, hk, hexp]
      rw [hk, Nat.succ_mul] at hdiv
      omega

/-- A finite code stands for its place, with the sign of its first bit. -/
theorem decode_of_lt {code : Nat} (h : code % f.signCode < f.infinityCode) :
    ∃ mantissa exponent,
      f.decode code = .finite (code / f.signCode % 2 == 1) mantissa exponent ∧
      f.IsPlace (code % f.signCode) mantissa exponent := by
  refine ⟨_, _, ?_, f.isPlace_of_fields (code % f.signCode)⟩
  unfold decode
  simp only [Nat.shiftLeft_eq, Nat.shiftRight_eq_div_pow, one_mul]
  rw [if_neg (by omega), if_neg (by omega)]
  by_cases hz : code % f.signCode / 2 ^ f.fractionBits = 0
  · simp only [hz, if_true]
    simp
  · simp only [hz, if_false]

/-- Only a finite code stands for a finite number, and the number is that of its place. -/
theorem isPlace_of_decode {code : Nat} {negative : Bool} {mantissa : Nat} {exponent : Int}
    (h : f.decode code = .finite negative mantissa exponent) :
    code % f.signCode < f.infinityCode ∧ f.IsPlace (code % f.signCode) mantissa exponent := by
  have hlt : code % f.signCode < f.infinityCode := by
    by_contra hge
    unfold decode at h
    dsimp only at h
    split at h
    · cases h
    · split at h
      · cases h
      · omega
  obtain ⟨m, e, hd, hplace⟩ := decode_of_lt hlt
  obtain ⟨_, rfl, rfl⟩ := Datum.finite.inj (hd.symm.trans h)
  exact ⟨hlt, hplace⟩

/-- A ratio lies between two powers of two that the lengths of its sides give. -/
theorem ratio_bounds {num den : Nat} (hn : num ≠ 0) (hd : den ≠ 0) :
    (2 : ℚ) ^ ((Nat.log2 num : ℤ) - Nat.log2 den - 1) ≤ (num : ℚ) / den ∧
      (num : ℚ) / den < (2 : ℚ) ^ ((Nat.log2 num : ℤ) - Nat.log2 den + 1) := by
  have hden : (0 : ℚ) < den := by exact_mod_cast Nat.pos_of_ne_zero hd
  have hnumLow : (2 : ℚ) ^ (Nat.log2 num : ℤ) ≤ num := by
    exact_mod_cast Nat.log2_self_le hn
  have hnumHigh : (num : ℚ) < (2 : ℚ) ^ ((Nat.log2 num : ℤ) + 1) := by
    exact_mod_cast Nat.lt_log2_self
  have hdenLow : (2 : ℚ) ^ (Nat.log2 den : ℤ) ≤ den := by
    exact_mod_cast Nat.log2_self_le hd
  have hdenHigh : (den : ℚ) < (2 : ℚ) ^ ((Nat.log2 den : ℤ) + 1) := by
    exact_mod_cast Nat.lt_log2_self
  constructor
  · rw [le_div_iff₀ hden]
    calc (2 : ℚ) ^ ((Nat.log2 num : ℤ) - Nat.log2 den - 1) * den
        ≤ (2 : ℚ) ^ ((Nat.log2 num : ℤ) - Nat.log2 den - 1) *
            (2 : ℚ) ^ ((Nat.log2 den : ℤ) + 1) := by gcongr
      _ = (2 : ℚ) ^ (Nat.log2 num : ℤ) := by
          rw [← zpow_add₀ two_ne_zero]
          congr 1
          omega
      _ ≤ num := hnumLow
  · rw [div_lt_iff₀ hden]
    calc (num : ℚ) < (2 : ℚ) ^ ((Nat.log2 num : ℤ) + 1) := hnumHigh
      _ = (2 : ℚ) ^ ((Nat.log2 num : ℤ) - Nat.log2 den + 1) * (2 : ℚ) ^ (Nat.log2 den : ℤ) := by
          rw [← zpow_add₀ two_ne_zero]
          congr 1
          omega
      _ ≤ (2 : ℚ) ^ ((Nat.log2 num : ℤ) - Nat.log2 den + 1) * den := by gcongr

/-- The power of two in which a ratio is rounded: its mantissa has one bit more than are stored,
or fewer at the least exponent. -/
structure IsScale (f : BinaryFormat) (x : ℚ) (exponent : Int) : Prop where
  /-- The exponent is not below the least one. -/
  floor_le : f.floorExponent ≤ exponent
  /-- The mantissa is not too long. -/
  lt : x < (2 : ℚ) ^ (f.fractionBits + 1) * (2 : ℚ) ^ exponent
  /-- Above the least exponent it is not too short. -/
  le : f.floorExponent < exponent → (2 : ℚ) ^ f.fractionBits * (2 : ℚ) ^ exponent ≤ x

/-- A number that is not zero stays so when it is scaled up, so the quotients below are of positive
numbers. -/
theorem scaleUp_pos {n : Nat} (hn : n ≠ 0) (e : Int) : 0 < scaleUp n e := by
  rw [scaleUp_eq]
  have hpos : 0 < n := Nat.pos_of_ne_zero hn
  positivity

/-- A whole number is above the scaled ratio exactly if it is above its whole part. -/
theorem scaled_div_lt_iff (num : Nat) {den : Nat} (hd : den ≠ 0) (e : Int) (k : Nat) :
    scaleUp num (-e) / scaleUp den e < k ↔ (num : ℚ) / den < k * (2 : ℚ) ^ e := by
  have hpos := scaleUp_pos hd e
  have hcast : (0 : ℚ) < (scaleUp den e : ℚ) := by exact_mod_cast hpos
  have htwo : (0 : ℚ) < (2 : ℚ) ^ e := by positivity
  rw [Nat.div_lt_iff_lt_mul hpos, ← div_lt_iff₀ htwo, ← scaleUp_div, div_lt_iff₀ hcast]
  exact_mod_cast Iff.rfl

/-- One bit more of the mantissa is one power of two more, which is why places meet without a
gap. -/
theorem pow_succ_mul_zpow (n : Nat) (e : Int) :
    (2 : ℚ) ^ (n + 1) * (2 : ℚ) ^ e = (2 : ℚ) ^ n * (2 : ℚ) ^ (e + 1) := by
  rw [pow_succ, zpow_add_one₀ two_ne_zero, mul_assoc, mul_comm (2 : ℚ) ((2 : ℚ) ^ e)]

/-- The exponent that rounding chooses is the scale of the ratio. -/
theorem exists_scale {num den : Nat} (hn : num ≠ 0) (hd : den ≠ 0) :
    ∃ exponent, f.IsScale ((num : ℚ) / den) exponent ∧
      f.nearestMagnitude num den = min f.infinityCode
        ((exponent - f.floorExponent).toNat * 2 ^ f.fractionBits +
          roundHalfEven (scaleUp num (-exponent)) (scaleUp den exponent)) := by
  obtain ⟨hlow, hhigh⟩ := ratio_bounds hn hd
  let rough : ℤ := (Nat.log2 num : ℤ) - Nat.log2 den - f.fractionBits - 1
  let start := max rough f.floorExponent
  have hrough : (2 : ℚ) ^ f.fractionBits * (2 : ℚ) ^ rough ≤ (num : ℚ) / den := by
    rw [← zpow_natCast, ← zpow_add₀ two_ne_zero]
    refine le_trans (le_of_eq ?_) hlow
    congr 1
    change (f.fractionBits : ℤ) + ((Nat.log2 num : ℤ) - Nat.log2 den - f.fractionBits - 1) = _
    omega
  have hwide : (num : ℚ) / den < (2 : ℚ) ^ (f.fractionBits + 2) * (2 : ℚ) ^ rough := by
    rw [← zpow_natCast, ← zpow_add₀ two_ne_zero]
    refine lt_of_lt_of_le hhigh (le_of_eq ?_)
    congr 1
    change _ = ((f.fractionBits + 2 : ℕ) : ℤ) +
      ((Nat.log2 num : ℤ) - Nat.log2 den - f.fractionBits - 1)
    omega
  have hunfold : f.nearestMagnitude num den =
      let exponent := if 2 ^ (f.fractionBits + 1) ≤ scaleUp num (-start) / scaleUp den start
        then start + 1 else start
      min f.infinityCode ((exponent - f.floorExponent).toNat * 2 ^ f.fractionBits +
        roundHalfEven (scaleUp num (-exponent)) (scaleUp den exponent)) := by
    unfold nearestMagnitude
    rw [if_neg hn]
    simp only [Nat.shiftLeft_eq, one_mul]
    rfl
  by_cases hcarry : 2 ^ (f.fractionBits + 1) ≤ scaleUp num (-start) / scaleUp den start
  · refine ⟨start + 1, ?_, by rw [hunfold]; simp only [hcarry, if_true]⟩
    have hge : (2 : ℚ) ^ (f.fractionBits + 1) * (2 : ℚ) ^ start ≤ (num : ℚ) / den := by
      have hnot := mt (scaled_div_lt_iff num hd start (2 ^ (f.fractionBits + 1))).mpr
        (not_lt.mpr hcarry)
      push_cast at hnot
      exact not_lt.mp hnot
    -- at the least exponent the ratio would be too small for a carry
    have hstart : start = rough := by
      by_contra hne
      have hfloor : start = f.floorExponent := by omega
      have hle : (2 : ℚ) ^ (rough + 1) ≤ (2 : ℚ) ^ start :=
        zpow_le_zpow_right₀ one_le_two (by omega)
      have hlt : (num : ℚ) / den < (2 : ℚ) ^ (f.fractionBits + 1) * (2 : ℚ) ^ start := by
        rw [pow_succ_mul_zpow] at hwide
        refine lt_of_lt_of_le hwide ?_
        gcongr
      exact absurd hge (not_le.mpr hlt)
    refine ⟨by omega, ?_, ?_⟩
    · rw [hstart, ← pow_succ_mul_zpow]
      exact hwide
    · intro _
      rw [← pow_succ_mul_zpow]
      exact hge
  · refine ⟨start, ?_, by rw [hunfold]; simp only [hcarry, if_false]⟩
    refine ⟨by omega, ?_, ?_⟩
    · have hlt := (scaled_div_lt_iff num hd start (2 ^ (f.fractionBits + 1))).mp
        (not_le.mp hcarry)
      push_cast at hlt
      exact hlt
    · intro hfloor
      have hstart : start = rough := by omega
      rw [hstart]
      exact hrough

/-- A whole number above the scaled ratio is above the rounded mantissa. -/
theorem roundHalfEven_scaled_le {num den : Nat} (hd : den ≠ 0) {e : Int} {k : Nat}
    (h : (num : ℚ) / den ≤ k * (2 : ℚ) ^ e) :
    roundHalfEven (scaleUp num (-e)) (scaleUp den e) ≤ k := by
  have hpos := scaleUp_pos hd e
  have hcast : (0 : ℚ) < (scaleUp den e : ℚ) := by exact_mod_cast hpos
  have htwo : (0 : ℚ) < (2 : ℚ) ^ e := by positivity
  rw [← div_le_iff₀ htwo, ← scaleUp_div, div_le_iff₀ hcast] at h
  exact roundHalfEven_le hpos (by exact_mod_cast h)

/-- A whole number below the scaled ratio is below the rounded mantissa. -/
theorem le_roundHalfEven_scaled {num den : Nat} (hd : den ≠ 0) {e : Int} {k : Nat}
    (h : k * (2 : ℚ) ^ e ≤ (num : ℚ) / den) :
    k ≤ roundHalfEven (scaleUp num (-e)) (scaleUp den e) := by
  have hpos := scaleUp_pos hd e
  have hcast : (0 : ℚ) < (scaleUp den e : ℚ) := by exact_mod_cast hpos
  have htwo : (0 : ℚ) < (2 : ℚ) ^ e := by positivity
  rw [← le_div_iff₀ htwo, ← scaleUp_div, le_div_iff₀ hcast] at h
  exact le_roundHalfEven hpos (by exact_mod_cast h)

/-- A ratio that is not above the number of a code is not rounded above the code. -/
theorem nearestMagnitude_le {num den code m : Nat} {e : Int} (hd : den ≠ 0)
    (hc : f.IsPlace code m e) (h : (num : ℚ) / den ≤ m * (2 : ℚ) ^ e) :
    f.nearestMagnitude num den ≤ code := by
  by_cases hn : num = 0
  · rw [hn, nearestMagnitude, if_pos rfl]
    exact Nat.zero_le _
  obtain ⟨E, hE, heq⟩ := exists_scale (f := f) hn hd
  have hcode := hc.code_eq
  have hpow : 2 ^ (f.fractionBits + 1) = 2 * 2 ^ f.fractionBits := by
    rw [Nat.pow_succ, Nat.mul_comm]
  suffices hbound : (E - f.floorExponent).toNat * 2 ^ f.fractionBits +
      roundHalfEven (scaleUp num (-E)) (scaleUp den E) ≤ code by
    rw [heq]
    omega
  have hfloor := hE.floor_le
  rcases lt_trichotomy E e with hlt | rfl | hgt
  · -- the rounded mantissa may carry, but not past a greater exponent
    have hround : roundHalfEven (scaleUp num (-E)) (scaleUp den E) ≤ 2 ^ (f.fractionBits + 1) := by
      apply roundHalfEven_scaled_le hd
      push_cast
      exact hE.lt.le
    have hfull := hc.full (by omega)
    obtain ⟨k, hk⟩ : ∃ k, (e - f.floorExponent).toNat = (E - f.floorExponent).toNat + 1 + k :=
      ⟨(e - f.floorExponent).toNat - ((E - f.floorExponent).toNat + 1), by omega⟩
    rw [hcode, hk, Nat.add_mul, Nat.add_mul]
    have hk0 := Nat.zero_le (k * 2 ^ f.fractionBits)
    omega
  · have hround := roundHalfEven_scaled_le hd h
    omega
  · exfalso
    have hle := hE.le (by have := hc.floor_le; omega)
    have hm : (m : ℚ) < (2 : ℚ) ^ (f.fractionBits + 1) := by exact_mod_cast hc.lt
    have hsmall : (m : ℚ) * (2 : ℚ) ^ e < (2 : ℚ) ^ f.fractionBits * (2 : ℚ) ^ E := by
      have htwo : (0 : ℚ) < (2 : ℚ) ^ e := by positivity
      have hexp : (2 : ℚ) ^ (e + 1) ≤ (2 : ℚ) ^ E := zpow_le_zpow_right₀ one_le_two (by omega)
      calc (m : ℚ) * (2 : ℚ) ^ e < (2 : ℚ) ^ (f.fractionBits + 1) * (2 : ℚ) ^ e := by gcongr
        _ = (2 : ℚ) ^ f.fractionBits * (2 : ℚ) ^ (e + 1) := pow_succ_mul_zpow _ _
        _ ≤ (2 : ℚ) ^ f.fractionBits * (2 : ℚ) ^ E := by gcongr
    exact absurd (hle.trans h) (not_le.mpr hsmall)

/-- A ratio that is not below the number of a finite code is not rounded below the code. -/
theorem le_nearestMagnitude {num den code m : Nat} {e : Int} (hd : den ≠ 0)
    (hc : f.IsPlace code m e) (hfinite : code ≤ f.infinityCode)
    (h : m * (2 : ℚ) ^ e ≤ (num : ℚ) / den) : code ≤ f.nearestMagnitude num den := by
  have hcode := hc.code_eq
  by_cases hn : num = 0
  · -- only zero is not above zero, and it has the code zero
    have hm : m = 0 := by
      rw [hn, Nat.cast_zero, zero_div] at h
      have htwo : (0 : ℚ) < (2 : ℚ) ^ e := by positivity
      have hle : (m : ℚ) ≤ 0 := by nlinarith
      exact_mod_cast le_antisymm hle (Nat.cast_nonneg m)
    have hexp : e = f.floorExponent := by
      by_contra hne
      have hfull := hc.full (lt_of_le_of_ne hc.floor_le (Ne.symm hne))
      have hp : 0 < 2 ^ f.fractionBits := by positivity
      omega
    rw [hcode, hexp, hm]
    simp
  obtain ⟨E, hE, heq⟩ := exists_scale (f := f) hn hd
  have hpow : 2 ^ (f.fractionBits + 1) = 2 * 2 ^ f.fractionBits := by
    rw [Nat.pow_succ, Nat.mul_comm]
  suffices hbound : code ≤ (E - f.floorExponent).toNat * 2 ^ f.fractionBits +
      roundHalfEven (scaleUp num (-E)) (scaleUp den E) by
    rw [heq]
    omega
  have hfloor := hc.floor_le
  rcases lt_trichotomy e E with hlt | rfl | hgt
  · have hround : 2 ^ f.fractionBits ≤ roundHalfEven (scaleUp num (-E)) (scaleUp den E) := by
      apply le_roundHalfEven_scaled hd
      push_cast
      exact hE.le (by omega)
    have hm := hc.lt
    obtain ⟨k, hk⟩ : ∃ k, (E - f.floorExponent).toNat = (e - f.floorExponent).toNat + 1 + k :=
      ⟨(E - f.floorExponent).toNat - ((e - f.floorExponent).toNat + 1), by omega⟩
    rw [hcode, hk, Nat.add_mul, Nat.add_mul]
    have hk0 := Nat.zero_le (k * 2 ^ f.fractionBits)
    omega
  · have hround := le_roundHalfEven_scaled hd h
    omega
  · exfalso
    have hfull : (2 : ℚ) ^ f.fractionBits ≤ m := by
      exact_mod_cast hc.full (by have := hE.floor_le; omega)
    have hlarge : (2 : ℚ) ^ (f.fractionBits + 1) * (2 : ℚ) ^ E ≤ m * (2 : ℚ) ^ e := by
      have hexp : (2 : ℚ) ^ (E + 1) ≤ (2 : ℚ) ^ e := zpow_le_zpow_right₀ one_le_two (by omega)
      rw [pow_succ_mul_zpow]
      gcongr
    exact absurd (hlarge.trans h) (not_le.mpr hE.lt)

/-- Greater codes stand for greater numbers, so rounding can be followed on the codes. -/
theorem IsPlace.value_le {code code' m m' : Nat} {e e' : Int} (hc : f.IsPlace code m e)
    (hc' : f.IsPlace code' m' e') (h : code ≤ code') :
    (m : ℚ) * (2 : ℚ) ^ e ≤ m' * (2 : ℚ) ^ e' := by
  have hcode := hc.code_eq
  have hcode' := hc'.code_eq
  have hfloor := hc.floor_le
  have hfloor' := hc'.floor_le
  have hpow : 2 ^ (f.fractionBits + 1) = 2 * 2 ^ f.fractionBits := by
    rw [Nat.pow_succ, Nat.mul_comm]
  rcases lt_trichotomy e e' with hlt | rfl | hgt
  · have hm : (m : ℚ) ≤ (2 : ℚ) ^ (f.fractionBits + 1) := by exact_mod_cast hc.lt.le
    have hm' : (2 : ℚ) ^ f.fractionBits ≤ m' := by exact_mod_cast hc'.full (by omega)
    have hexp : (2 : ℚ) ^ (e + 1) ≤ (2 : ℚ) ^ e' := zpow_le_zpow_right₀ one_le_two (by omega)
    calc (m : ℚ) * (2 : ℚ) ^ e ≤ (2 : ℚ) ^ (f.fractionBits + 1) * (2 : ℚ) ^ e := by gcongr
      _ = (2 : ℚ) ^ f.fractionBits * (2 : ℚ) ^ (e + 1) := pow_succ_mul_zpow _ _
      _ ≤ m' * (2 : ℚ) ^ e' := by gcongr
  · have hm : (m : ℚ) ≤ m' := by
      have hle : m ≤ m' := by omega
      exact_mod_cast hle
    gcongr
  · exfalso
    have hfull := hc.full (by omega)
    have hlt' := hc'.lt
    obtain ⟨k, hk⟩ : ∃ k, (e - f.floorExponent).toNat = (e' - f.floorExponent).toNat + 1 + k :=
      ⟨(e - f.floorExponent).toNat - ((e' - f.floorExponent).toNat + 1), by omega⟩
    rw [hk, Nat.add_mul, Nat.add_mul] at hcode
    have hk0 := Nat.zero_le (k * 2 ^ f.fractionBits)
    omega

/-- The ratio that a finite number is encoded from is the number. -/
theorem scaleUp_div_one (m : Nat) (e : Int) :
    (scaleUp m e : ℚ) / (scaleUp 1 (-e) : ℚ) = m * (2 : ℚ) ^ e := by
  have h := scaleUp_div m 1 (-e)
  rw [neg_neg] at h
  rw [h, Nat.cast_one, div_one, zpow_neg, div_inv_eq_mul]

end BinaryFormat

namespace Double

open BinaryFormat

/-- Does the bit pattern stand for this number, without a sign? -/
structure IsNumber (x : Double) (mantissa : Nat) (exponent : Int) : Prop where
  /-- What the bits stand for. -/
  datum : x.datum = .finite false mantissa exponent
  /-- The bits are the code of the number. -/
  place : binary64.IsPlace x.bits.toNat mantissa exponent
  /-- The code is a finite one. -/
  lt : x.bits.toNat < binary64.infinityCode

/-- Bits below those of infinity are those of a number with a mantissa and an exponent. -/
theorem isNumber_ofCode {code : Nat} (h : code < binary64.infinityCode) :
    ∃ mantissa exponent, (ofCode code).IsNumber mantissa exponent := by
  have hsign : code < binary64.signCode := h.trans binary64.infinityCode_lt_signCode
  have hbits : (ofCode code).bits.toNat = code := by
    have hword : binary64.signCode ≤ 2 ^ 64 := by decide
    exact UInt64.toNat_ofNat_of_lt' (lt_of_lt_of_le hsign hword)
  have hmod : code % binary64.signCode = code := Nat.mod_eq_of_lt hsign
  have hlt : code % binary64.signCode < binary64.infinityCode := by rwa [hmod]
  obtain ⟨mantissa, exponent, hd, hplace⟩ := decode_of_lt hlt
  refine ⟨mantissa, exponent, ?_, ?_, ?_⟩
  · rw [datum, hbits, hd, Nat.div_eq_of_lt hsign]
    rfl
  · rw [hbits]
    rwa [hmod] at hplace
  · rwa [hbits]

/-- A float whose datum is finite and not negative is a number with the mantissa and the exponent of
the datum. -/
theorem isNumber_of_datum {x : Double} {mantissa : Nat} {exponent : Int}
    (h : x.datum = .finite false mantissa exponent) : x.IsNumber mantissa exponent := by
  obtain ⟨hlt, hplace⟩ := isPlace_of_decode h
  -- without a sign the bits are the code itself
  have hbits : x.bits.toNat % binary64.signCode = x.bits.toNat := by
    have hmod : x.bits.toNat % binary64.signCode < binary64.infinityCode := hlt
    obtain ⟨m, e, hd, _⟩ := decode_of_lt (f := binary64) hmod
    have hsign := (Datum.finite.inj (hd.symm.trans h)).1
    have hword : x.bits.toNat < 2 ^ 64 := x.bits.toNat_lt
    have hcode : binary64.signCode = 2 ^ 63 := by decide
    rw [hcode] at hsign ⊢
    simp only [beq_eq_false_iff_ne, ne_eq] at hsign
    omega
  rw [hbits] at hlt hplace
  exact ⟨h, hplace, hlt⟩

/-- A ratio between two finite numbers is rounded to a number between them. -/
theorem isNumber_nearest {num den : Nat} (hd : den ≠ 0) {y : Double} {m : Nat} {e : Int}
    (hy : y.IsNumber m e) (h : (num : ℚ) / den ≤ m * (2 : ℚ) ^ e) :
    ∃ m' e', (nearest false num den).IsNumber m' e' ∧
      (m' : ℚ) * (2 : ℚ) ^ e' ≤ m * (2 : ℚ) ^ e ∧
      ∀ {z : Double} {n : Nat} {d : Int}, z.IsNumber n d → n * (2 : ℚ) ^ d ≤ (num : ℚ) / den →
        n * (2 : ℚ) ^ d ≤ m' * (2 : ℚ) ^ e' := by
  have hle : binary64.nearestMagnitude num den ≤ y.bits.toNat := nearestMagnitude_le hd hy.place h
  have hlt : binary64.nearestMagnitude num den < binary64.infinityCode := lt_of_le_of_lt hle hy.lt
  obtain ⟨m', e', hnumber⟩ := isNumber_ofCode hlt
  have hword : binary64.infinityCode < 2 ^ 64 := by decide
  have hbits : (nearest false num den).bits.toNat = binary64.nearestMagnitude num den :=
    UInt64.toNat_ofNat_of_lt' (hlt.trans hword)
  have hplace : binary64.IsPlace (binary64.nearestMagnitude num den) m' e' := by
    rw [← hbits]
    exact hnumber.place
  refine ⟨m', e', hnumber, hplace.value_le hy.place hle, ?_⟩
  intro z n d hz hzle
  exact hz.place.value_le hplace (le_nearestMagnitude hd hz.place hz.lt.le hzle)

/-- The code of one is the hidden bit alone, with the exponent that makes it one. -/
theorem isNumber_one : (ofNat 1).IsNumber (2 ^ 52) (-52) :=
  isNumber_of_datum (by decide +kernel)

/-- The code of the first number that does not fit into 64 bits. -/
theorem isNumber_wordBound : (ofNat (2 ^ 64)).IsNumber (2 ^ 52) 12 :=
  isNumber_of_datum (by decide +kernel)

/-- A natural number of 64 bits is rounded to a finite number, which is not below one unless
it is zero. -/
theorem isNumber_ofNat {n : Nat} (hn : n < 2 ^ 64) :
    ∃ m e, (ofNat n).IsNumber m e ∧ (m : ℚ) * (2 : ℚ) ^ e ≤ 2 ^ 64 ∧
      (1 ≤ n → 1 ≤ (m : ℚ) * (2 : ℚ) ^ e) := by
  have hbound : ((2 ^ 52 : Nat) : ℚ) * (2 : ℚ) ^ (12 : ℤ) = 2 ^ 64 := by norm_num
  have hone : ((2 ^ 52 : Nat) : ℚ) * (2 : ℚ) ^ (-52 : ℤ) = 1 := by norm_num
  have hle : (n : ℚ) / (1 : Nat) ≤ ((2 ^ 52 : Nat) : ℚ) * (2 : ℚ) ^ (12 : ℤ) := by
    rw [hbound, Nat.cast_one, div_one]
    exact_mod_cast hn.le
  obtain ⟨m, e, hnumber, hupper, hlower⟩ := isNumber_nearest one_ne_zero isNumber_wordBound hle
  refine ⟨m, e, hnumber, hbound ▸ hupper, ?_⟩
  intro hpos
  have hfrom := hlower isNumber_one
  rw [hone, Nat.cast_one, div_one] at hfrom
  exact hfrom (by exact_mod_cast hpos)

/-- A product of numbers is finite if there is a finite number above it. -/
theorem isNumber_mul {x y z : Double} {m n k : Nat} {e d c : Int} (hx : x.IsNumber m e)
    (hy : y.IsNumber n d) (hz : z.IsNumber k c)
    (h : (m : ℚ) * (2 : ℚ) ^ e * (n * (2 : ℚ) ^ d) ≤ k * (2 : ℚ) ^ c) :
    ∃ m' e', (x * y).IsNumber m' e' := by
  have hcode : x * y = nearest false (scaleUp (m * n) (e + d)) (scaleUp 1 (-(e + d))) := by
    change ofCode (binary64.mulCode x.datum y.datum) = _
    rw [hx.datum, hy.datum]
    rfl
  have hratio : (scaleUp (m * n) (e + d) : ℚ) / (scaleUp 1 (-(e + d)) : ℚ) ≤ k * (2 : ℚ) ^ c := by
    rw [scaleUp_div_one, zpow_add₀ two_ne_zero]
    push_cast
    refine le_trans (le_of_eq ?_) h
    ring
  obtain ⟨m', e', hnumber, _⟩ := isNumber_nearest (scaleUp_pos one_ne_zero _).ne' hz hratio
  exact ⟨m', e', hcode ▸ hnumber⟩

/-- A number divided by one that is not below one is finite, since the quotient does not leave the
range. -/
theorem isNumber_div {x y : Double} {m n : Nat} {e d : Int} (hx : x.IsNumber m e)
    (hy : y.IsNumber n d) (h : 1 ≤ (n : ℚ) * (2 : ℚ) ^ d) : ∃ m' e', (x / y).IsNumber m' e' := by
  have htwo : (0 : ℚ) < (2 : ℚ) ^ d := by positivity
  have hn : n ≠ 0 := by
    rintro rfl
    rw [Nat.cast_zero, zero_mul] at h
    exact absurd h (by norm_num)
  have hcode : x / y = nearest false (scaleUp m (e - d)) (scaleUp n (d - e)) := by
    change ofCode (binary64.divCode x.datum y.datum) = _
    rw [hx.datum, hy.datum]
    change ofCode (if n = 0 then _ else _) = _
    rw [if_neg hn]
    rfl
  have hratio : (scaleUp m (e - d) : ℚ) / (scaleUp n (d - e) : ℚ) ≤ m * (2 : ℚ) ^ e := by
    have hdiv := scaleUp_div m n (d - e)
    have hnum : (0 : ℚ) ≤ m * (2 : ℚ) ^ e := by positivity
    have hquot : (m : ℚ) / n / (2 : ℚ) ^ (d - e) = m * (2 : ℚ) ^ e / (n * (2 : ℚ) ^ d) := by
      rw [zpow_sub₀ two_ne_zero]
      field_simp
    rw [neg_sub] at hdiv
    rw [hdiv, hquot]
    exact div_le_self hnum h
  obtain ⟨m', e', hnumber, _⟩ := isNumber_nearest (scaleUp_pos hn _).ne' hx hratio
  exact ⟨m', e', hcode ▸ hnumber⟩

/-- Dividing by a positive natural number of 64 bits leads from finite numbers to finite ones. -/
theorem isNumber_div_ofNat {x : Double} {m : Nat} {e : Int} (hx : x.IsNumber m e) {n : Nat}
    (hpos : 1 ≤ n) (hn : n < 2 ^ 64) : ∃ m' e', (x / ofNat n).IsNumber m' e' := by
  obtain ⟨k, d, hnumber, _, hge⟩ := isNumber_ofNat hn
  exact isNumber_div hx hnumber (hge hpos)

/-- A number with a mantissa and an exponent is finite, which is what its magnitude is checked
for. -/
theorem IsNumber.isFinite {x : Double} {m : Nat} {e : Int} (hx : x.IsNumber m e) :
    x.isFinite = true := by
  rw [Double.isFinite, hx.datum]

/-- A number with a mantissa and an exponent is finite and not below zero, since it has no sign. -/
theorem IsNumber.isFiniteNonneg {x : Double} {m : Nat} {e : Int} (hx : x.IsNumber m e) :
    x.isFiniteNonneg = true := by
  rw [Double.isFiniteNonneg, hx.datum]
  rfl

end Double

end VariableBridge.Number
