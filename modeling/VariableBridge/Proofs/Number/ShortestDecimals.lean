import VariableBridge.Number.Shortest
import VariableBridge.Proofs.Number.Rounding

/-!
# Shortest decimals of finite numbers

The search for a shortest decimal tries one power of ten after the other. Main statements: a
grid that is not coarser than a quarter of the distance between neighbours has a hit; the first
power of ten and the number of tries are chosen so that such a grid is reached; hence every
number but zero gets a decimal with digits, which are few, and which lies in the interval that
rounds to the number.
-/

namespace VariableBridge.Number

/-- Two powers compare like two smaller ones whose exponents are in a greater ratio. -/
theorem zpow_le_zpow_of_pow_le {x y : ℚ} (hx : 1 ≤ x) (hy : 1 ≤ y) {p q : ℕ} (hp : p ≠ 0)
    (h : x ^ p ≤ y ^ q) {a b : ℤ} (ha : 0 ≤ a) (hab : q * a ≤ p * b) : x ^ a ≤ y ^ b := by
  have hx0 : (0 : ℚ) ≤ x := by linarith
  have hy0 : (0 : ℚ) < y := by linarith
  have hpower : (x ^ a) ^ p ≤ (y ^ b) ^ p := by
    calc (x ^ a) ^ p = (x ^ p) ^ a := by
          rw [← zpow_natCast, ← zpow_natCast, ← zpow_mul, ← zpow_mul, mul_comm]
      _ ≤ (y ^ q) ^ a := zpow_le_zpow_left₀ ha (by positivity) h
      _ = y ^ (q * a) := by rw [zpow_mul, zpow_natCast]
      _ ≤ y ^ (p * b) := zpow_le_zpow_right₀ hy hab
      _ = (y ^ b) ^ p := by rw [mul_comm, zpow_mul, zpow_natCast]
  exact le_of_pow_le_pow_left₀ hp (by positivity) hpower

/-- Three powers of ten are a little less than ten powers of two, and 28 of them a little more
than 93. -/
theorem ten_zpow_le_two_zpow {k b : ℤ} (hpos : 0 ≤ k → 10 * k ≤ 3 * b)
    (hneg : k ≤ 0 → 93 * k ≤ 28 * b) : (10 : ℚ) ^ k ≤ (2 : ℚ) ^ b := by
  rcases le_total 0 k with hk | hk
  · have hten : (10 : ℚ) ^ 3 ≤ 2 ^ 10 := by norm_num
    exact zpow_le_zpow_of_pow_le (by norm_num) one_le_two (by decide) hten hk (hpos hk)
  · have hinverse : (2 : ℚ) ^ (-b) ≤ (10 : ℚ) ^ (-k) := by
      rcases le_total 0 b with hb | hb
      · exact (zpow_le_one_of_nonpos₀ one_le_two (by omega)).trans
          (one_le_zpow₀ (by norm_num) (by omega))
      · have htwo : (2 : ℚ) ^ 93 ≤ 10 ^ 28 := by norm_num
        have hratio := hneg hk
        exact zpow_le_zpow_of_pow_le one_le_two (by norm_num) (by decide) htwo (by omega)
          (by push_cast; omega)
    rw [zpow_neg, zpow_neg] at hinverse
    exact (inv_le_inv₀ (by positivity) (by positivity)).mp hinverse

/-- The same from the other side: a power of two that is small enough lies below the power of
ten. -/
theorem two_zpow_le_ten_zpow {k b : ℤ} (hpos : 0 ≤ k → 28 * b ≤ 93 * k)
    (hneg : k ≤ 0 → 3 * b ≤ 10 * k) : (2 : ℚ) ^ b ≤ (10 : ℚ) ^ k := by
  have hinverse : (10 : ℚ) ^ (-k) ≤ (2 : ℚ) ^ (-b) :=
    ten_zpow_le_two_zpow (fun h => by have := hneg (by omega); omega)
      (fun h => by have := hpos (by omega); omega)
  rw [zpow_neg, zpow_neg] at hinverse
  exact (inv_le_inv₀ (by positivity) (by positivity)).mp hinverse

namespace RoundingInterval

variable {i : RoundingInterval} {tie : Tie} {k : ℤ} {c : ℕ}

/-- One quarter, counted in the unit that makes it and the step of the grid whole. -/
def unitAt (i : RoundingInterval) (k : ℤ) : ℕ := scaleUp 1 i.exponent * Nat.pow 10 (-k).toNat

/-- One step of the grid of a power of ten in this unit. -/
def stepAt (i : RoundingInterval) (k : ℤ) : ℕ := Nat.pow 10 k.toNat * scaleUp 1 (-i.exponent)

/-- A power is one of a whole exponent, up to a common factor that both sides of a comparison
share. -/
theorem pow_toNat {x : ℚ} (hx : x ≠ 0) (e : ℤ) : x ^ e.toNat = x ^ e * x ^ (-e).toNat := by
  rw [← zpow_natCast, ← zpow_natCast, ← zpow_add₀ hx]
  congr 1
  omega

/-- One quarter of the interval counts as one unit at least, whatever the exponents are. -/
theorem unitAt_pos (i : RoundingInterval) (k : ℤ) : 0 < i.unitAt k := by
  have hpow : 0 < Nat.pow 10 (-k).toNat := Nat.pow_pos (by decide)
  exact Nat.mul_pos (BinaryFormat.scaleUp_pos one_ne_zero _) hpow

/-- One step of the grid counts as one unit at least, whatever the exponents are. -/
theorem stepAt_pos (i : RoundingInterval) (k : ℤ) : 0 < i.stepAt k := by
  have hpow : 0 < Nat.pow 10 k.toNat := Nat.pow_pos (by decide)
  exact Nat.mul_pos hpow (BinaryFormat.scaleUp_pos one_ne_zero _)

/-- In the common unit, step and quarter are their powers times the same factor. -/
theorem exists_factor (i : RoundingInterval) (k : ℤ) :
    ∃ w : ℚ, 0 < w ∧ (i.stepAt k : ℚ) = (10 : ℚ) ^ k * w ∧
      (i.unitAt k : ℚ) = (2 : ℚ) ^ i.exponent * w := by
  refine ⟨(10 : ℚ) ^ (-k).toNat * (2 : ℚ) ^ (-i.exponent).toNat, by positivity, ?_, ?_⟩
  · have hcast : (i.stepAt k : ℚ) = (10 : ℚ) ^ k.toNat * (2 : ℚ) ^ (-i.exponent).toNat := by
      unfold stepAt
      rw [scaleUp_eq, one_mul, Nat.pow_eq]
      push_cast
      rfl
    rw [hcast, pow_toNat (by norm_num) k, mul_assoc]
  · have hcast : (i.unitAt k : ℚ) = (2 : ℚ) ^ i.exponent.toNat * (10 : ℚ) ^ (-k).toNat := by
      unfold unitAt
      rw [scaleUp_eq, one_mul, Nat.pow_eq]
      push_cast
      rfl
    rw [hcast, pow_toNat two_ne_zero i.exponent]
    ring

/-- Steps of the grid are compared with quarters of the interval as the rational numbers that they
stand for. -/
theorem mul_stepAt_le_iff (i : RoundingInterval) (k : ℤ) (a b : ℕ) :
    a * i.stepAt k ≤ b * i.unitAt k ↔
      (a : ℚ) * (10 : ℚ) ^ k ≤ b * (2 : ℚ) ^ i.exponent := by
  obtain ⟨w, hw, hstep, hunit⟩ := i.exists_factor k
  rw [← Nat.cast_le (α := ℚ), Nat.cast_mul, Nat.cast_mul, hstep, hunit, ← mul_assoc,
    ← mul_assoc, mul_le_mul_iff_left₀ hw]

/-- Quarters of the interval are compared with steps of the grid as the rational numbers that they
stand for. -/
theorem mul_unitAt_le_iff (i : RoundingInterval) (k : ℤ) (a b : ℕ) :
    a * i.unitAt k ≤ b * i.stepAt k ↔
      (a : ℚ) * (2 : ℚ) ^ i.exponent ≤ b * (10 : ℚ) ^ k := by
  obtain ⟨w, hw, hstep, hunit⟩ := i.exists_factor k
  rw [← Nat.cast_le (α := ℚ), Nat.cast_mul, Nat.cast_mul, hstep, hunit, ← mul_assoc,
    ← mul_assoc, mul_le_mul_iff_left₀ hw]

/-- What rounds to the number lies between the ends of its interval, which belong to it or not. -/
theorem between_of_contains {unit point : ℕ} (h : i.contains unit point = true) :
    i.low * unit ≤ point ∧ point ≤ i.high * unit := by
  unfold contains at h
  split at h
  · simpa using h
  · have hstrict : i.low * unit < point ∧ point < i.high * unit := by simpa using h
    exact ⟨hstrict.1.le, hstrict.2.le⟩

/-- The grid point that is not above the number. -/
def below (i : RoundingInterval) (k : ℤ) : ℕ := i.centre * i.unitAt k / i.stepAt k

/-- A grid has a hit exactly if one of the two neighbours rounds to the number, and the hit is
one that does. -/
theorem onGrid_cases (i : RoundingInterval) (tie : Tie) (k : ℤ) :
    (i.onGrid tie k = none ∧ i.contains (i.unitAt k) (i.below k * i.stepAt k) = false) ∨
      ∃ c, i.onGrid tie k = some c ∧ i.contains (i.unitAt k) (c * i.stepAt k) = true := by
  cases hb : i.contains (i.unitAt k) (i.below k * i.stepAt k) with
  | false =>
    cases ha : i.contains (i.unitAt k) ((i.below k + 1) * i.stepAt k) with
    | false =>
      left
      unfold below unitAt stepAt at hb ha
      unfold onGrid
      simp only [hb, ha, and_self]
    | true =>
      right
      refine ⟨i.below k + 1, ?_, ha⟩
      unfold below unitAt stepAt at hb ha ⊢
      unfold onGrid
      simp only [hb, ha]
  | true =>
    right
    cases ha : i.contains (i.unitAt k) ((i.below k + 1) * i.stepAt k) with
    | false =>
      refine ⟨i.below k, ?_, hb⟩
      unfold below unitAt stepAt at hb ha ⊢
      unfold onGrid
      simp only [hb, ha]
    | true =>
      have hone : i.onGrid tie k = some (i.below k) ∨ i.onGrid tie k = some (i.below k + 1) := by
        unfold below unitAt stepAt at hb ha ⊢
        unfold onGrid
        simp only [hb, ha]
        split
        · exact .inl rfl
        · split
          · exact .inr rfl
          · cases tie with
            | up => exact .inr rfl
            | even => exact ite_eq_or_eq _ _ _
      rcases hone with h | h
      · exact ⟨_, h, hb⟩
      · exact ⟨_, h, ha⟩

/-- A hit lies between the ends of the interval, whichever tie rule the interval has. -/
theorem between_of_onGrid (h : i.onGrid tie k = some c) :
    (i.low : ℚ) * (2 : ℚ) ^ i.exponent ≤ c * (10 : ℚ) ^ k ∧
      (c : ℚ) * (10 : ℚ) ^ k ≤ i.high * (2 : ℚ) ^ i.exponent := by
  rcases i.onGrid_cases tie k with ⟨hnone, _⟩ | ⟨c', hc, hcontains⟩
  · rw [hnone] at h
    cases h
  · obtain rfl : c' = c := Option.some.inj (hc.symm.trans h)
    obtain ⟨hlow, hhigh⟩ := between_of_contains hcontains
    exact ⟨(i.mul_unitAt_le_iff k _ _).mp hlow, (i.mul_stepAt_le_iff k _ _).mp hhigh⟩

/-- A grid that is not coarser than a quarter has a hit, so the search comes to an end there at the
latest. -/
theorem exists_onGrid (hlow : i.low < i.centre) (hhigh : i.centre < i.high)
    (hfine : (10 : ℚ) ^ k ≤ (2 : ℚ) ^ i.exponent) (tie : Tie) : ∃ c, i.onGrid tie k = some c := by
  have hstep : i.stepAt k ≤ i.unitAt k := by
    have h := (i.mul_stepAt_le_iff k 1 1).mpr (by simpa using hfine)
    simpa using h
  have hpos := i.stepAt_pos k
  have hunit := i.unitAt_pos k
  have hbelow : i.below k * i.stepAt k ≤ i.centre * i.unitAt k := Nat.div_mul_le_self _ _
  have habove : i.centre * i.unitAt k < i.below k * i.stepAt k + i.stepAt k :=
    Nat.lt_div_mul_add hpos
  -- the neighbour below is less than a quarter away
  have hleft : i.low * i.unitAt k < i.below k * i.stepAt k := by
    have hquarter : i.low * i.unitAt k + i.unitAt k ≤ i.centre * i.unitAt k := by
      rw [← Nat.succ_mul]
      exact Nat.mul_le_mul_right _ hlow
    omega
  have hright : i.below k * i.stepAt k < i.high * i.unitAt k :=
    lt_of_le_of_lt hbelow (Nat.mul_lt_mul_of_pos_right hhigh hunit)
  have hcontains : i.contains (i.unitAt k) (i.below k * i.stepAt k) = true := by
    unfold contains
    split
    · simp [hleft.le, hright.le]
    · simp [hleft, hright]
  rcases i.onGrid_cases tie k with ⟨_, hmiss⟩ | ⟨c, hc, _⟩
  · rw [hcontains] at hmiss
    cases hmiss
  · exact ⟨c, hc⟩

/-- If one of the grids that are tried has a hit, the search ends at a hit, and the grid before
it has none. -/
theorem exists_search {tries : ℕ} {k₁ : ℤ} (hhit : ∃ c, i.onGrid tie k₁ = some c) (hle : k₁ ≤ k)
    (hlt : k < k₁ + tries) :
    ∃ c e, i.search tie tries k = ⟨c, e⟩ ∧ i.onGrid tie e = some c ∧ k₁ ≤ e ∧ e ≤ k ∧
      (e < k → i.onGrid tie (e + 1) = none) := by
  induction tries generalizing k with
  | zero => omega
  | succ tries ih =>
    unfold search
    cases hk : i.onGrid tie k with
    | some c => exact ⟨c, k, rfl, hk, hle, le_rfl, fun h => absurd h (lt_irrefl k)⟩
    | none =>
      have hne : k₁ ≠ k := by
        rintro rfl
        obtain ⟨c, hc⟩ := hhit
        rw [hk] at hc
        cases hc
      obtain ⟨c, e, hsearch, hc, hlow, hhigh, hmiss⟩ :=
        ih (k := k - 1) (by omega) (by push_cast at hlt; omega)
      refine ⟨c, e, hsearch, hc, hlow, by omega, fun _ => ?_⟩
      by_cases hlast : e = k - 1
      · rw [hlast, sub_add_cancel]
        exact hk
      · exact hmiss (by omega)

/-- On a grid that is a power above one without a hit, the coefficient is small. -/
theorem lt_of_miss (hlow : i.low < i.centre) (hhigh : i.centre < i.high)
    (hc : i.onGrid tie k = some c) (hmiss : i.onGrid tie (k + 1) = none) : c < 10 * i.high := by
  have hcoarse : (2 : ℚ) ^ i.exponent < (10 : ℚ) ^ (k + 1) := by
    by_contra hfine
    obtain ⟨c', hc'⟩ := exists_onGrid hlow hhigh (not_lt.mp hfine) tie
    rw [hmiss] at hc'
    cases hc'
  have hten : (0 : ℚ) < (10 : ℚ) ^ k := by positivity
  have hpos : (0 : ℚ) < i.high := by exact_mod_cast Nat.zero_lt_of_lt hhigh
  have hlt : (c : ℚ) * (10 : ℚ) ^ k < ((10 * i.high : ℕ) : ℚ) * (10 : ℚ) ^ k := by
    calc (c : ℚ) * (10 : ℚ) ^ k ≤ i.high * (2 : ℚ) ^ i.exponent := (between_of_onGrid hc).2
      _ < i.high * (10 : ℚ) ^ (k + 1) := by gcongr
      _ = ((10 * i.high : ℕ) : ℚ) * (10 : ℚ) ^ k := by
          rw [zpow_add_one₀ (by norm_num)]
          push_cast
          ring
  exact_mod_cast lt_of_mul_lt_mul_right hlt hten.le

end RoundingInterval

/-- Is the decimal short, and in the interval that rounds to the number? -/
structure IsShort (mantissa : ℕ) (exponent : ℤ) (d : Decimal) : Prop where
  /-- There are digits other than zeros. -/
  pos : 0 < d.coefficient
  /-- There are at most 18 of them. -/
  lt : d.coefficient < 2 ^ 59
  /-- The decimal is not above the upper end of the interval. -/
  value_le : (d.coefficient : ℚ) * (10 : ℚ) ^ d.exponent ≤
    (4 * mantissa + 2 : ℕ) * (2 : ℚ) ^ (exponent - 2)
  /-- The power of ten is not far below one. -/
  le_exponent : -400 ≤ d.exponent
  /-- It is not far above one either. -/
  exponent_le : d.exponent ≤ 400

/-- The first power of ten that is tried, compared with the leading power of two. -/
theorem decimalCeiling_bounds (b : ℤ) : (b + 1) * 30103 < decimalCeiling b * 100000 ∧
    (decimalCeiling b - 1) * 100000 ≤ (b + 1) * 30103 := by
  unfold decimalCeiling
  omega

/-- The first power of ten is not much smaller than the number, so few multiples of it lie in
the interval. -/
theorem le_of_decimalCeiling {m c : ℕ} {e : ℤ} (hlog : Nat.log2 m ≤ 52) (he : -1074 ≤ e)
    (he' : e ≤ 971) (h : (c : ℚ) * (10 : ℚ) ^ decimalCeiling (Nat.log2 m + e) ≤
      (4 * m + 2 : ℕ) * (2 : ℚ) ^ (e - 2)) : c ≤ 2 ^ 9 := by
  have hfirst := decimalCeiling_bounds (Nat.log2 m + e)
  have hpower : (2 : ℚ) ^ (Nat.log2 m + e - 8) ≤ (10 : ℚ) ^ decimalCeiling (Nat.log2 m + e) :=
    two_zpow_le_ten_zpow (fun _ => by omega) (fun _ => by omega)
  have hmantissa : 4 * m + 2 ≤ 2 ^ (Nat.log2 m + 3) := by
    have hnext : m < 2 ^ (Nat.log2 m + 1) := Nat.lt_log2_self
    have hpow : 2 ^ (Nat.log2 m + 3) = 2 ^ (Nat.log2 m + 1) * 2 ^ 2 := pow_add 2 _ 2
    omega
  have htwo : (0 : ℚ) < (2 : ℚ) ^ (Nat.log2 m + e - 8) := by positivity
  have hle : (c : ℚ) * (2 : ℚ) ^ (Nat.log2 m + e - 8) ≤
      ((2 ^ 9 : ℕ) : ℚ) * (2 : ℚ) ^ (Nat.log2 m + e - 8) := by
    calc (c : ℚ) * (2 : ℚ) ^ (Nat.log2 m + e - 8)
        ≤ c * (10 : ℚ) ^ decimalCeiling (Nat.log2 m + e) := by gcongr
      _ ≤ (4 * m + 2 : ℕ) * (2 : ℚ) ^ (e - 2) := h
      _ ≤ ((2 ^ (Nat.log2 m + 3) : ℕ) : ℚ) * (2 : ℚ) ^ (e - 2) := by gcongr
      _ = ((2 ^ 9 : ℕ) : ℚ) * (2 : ℚ) ^ (Nat.log2 m + e - 8) := by
        rw [Nat.cast_pow, Nat.cast_pow, Nat.cast_ofNat, ← zpow_natCast, ← zpow_natCast,
          ← zpow_add₀ two_ne_zero, ← zpow_add₀ two_ne_zero]
        congr 1
        push_cast
        ring
  exact_mod_cast le_of_mul_le_mul_right hle htwo

/-- Every number but zero has a short decimal: its digits are below a bound, and it lies near the
number. -/
theorem isShort_shortestDecimal (f : BinaryFormat) (tie : Tie) {m : ℕ} {e : ℤ} (hm : m ≠ 0)
    (hlt : m < 2 ^ 53) (he : -1074 ≤ e) (he' : e ≤ 971) :
    IsShort m e (shortestDecimal f tie m e) := by
  let i := RoundingInterval.ofFinite f m e
  let k₀ := decimalCeiling (Nat.log2 m + e)
  have hlow : 0 < i.low ∧ i.low < i.centre := by
    have hends : i.low = 4 * m - 1 ∨ i.low = 4 * m - 2 := ite_eq_or_eq _ _ _
    change 0 < i.low ∧ i.low < 4 * m
    omega
  have hhigh : i.centre < i.high := Nat.lt_add_of_pos_right (by decide)
  have hlog : Nat.log2 m ≤ 52 := by
    have := (Nat.log2_lt hm).mpr hlt
    omega
  have hfirst : (Nat.log2 m + e + 1) * 30103 < k₀ * 100000 ∧
      (k₀ - 1) * 100000 ≤ (Nat.log2 m + e + 1) * 30103 := decimalCeiling_bounds _
  -- the last grid but one that may be tried is fine enough
  have hfine : (10 : ℚ) ^ (k₀ - 23) ≤ (2 : ℚ) ^ i.exponent := by
    change (10 : ℚ) ^ (k₀ - 23) ≤ (2 : ℚ) ^ (e - 2)
    exact ten_zpow_le_two_zpow (fun _ => by omega) (fun _ => by omega)
  have hhit := RoundingInterval.exists_onGrid hlow.2 hhigh hfine tie
  have hreach : k₀ < k₀ - 23 + (shortestSearchSpan : ℕ) := by
    unfold shortestSearchSpan
    omega
  obtain ⟨c, k, hsearch, hc, hge, hle, hmiss⟩ :=
    RoundingInterval.exists_search hhit (by omega : k₀ - 23 ≤ k₀) hreach
  have hdecimal : shortestDecimal f tie m e = ⟨c, k⟩ := by
    unfold shortestDecimal
    rw [if_neg hm]
    exact hsearch
  obtain ⟨hfrom, hto⟩ := RoundingInterval.between_of_onGrid hc
  have hten : (0 : ℚ) < (10 : ℚ) ^ k := by positivity
  rw [hdecimal]
  refine ⟨?_, ?_, hto, by change -400 ≤ k; omega, by change k ≤ 400; omega⟩
  · change 0 < c
    have hpos : (0 : ℚ) < c * (10 : ℚ) ^ k := by
      have hlowest : (0 : ℚ) < i.low := by exact_mod_cast hlow.1
      exact lt_of_lt_of_le (by positivity) hfrom
    exact_mod_cast (pos_iff_pos_of_mul_pos hpos).mpr hten
  · change c < 2 ^ 59
    rcases lt_or_eq_of_le hle with hlater | rfl
    · have hsmall := RoundingInterval.lt_of_miss hlow.2 hhigh hc (hmiss hlater)
      change c < 10 * (4 * m + 2) at hsmall
      omega
    · exact lt_of_le_of_lt (le_of_decimalCeiling hlog he he' hto) (by decide)

end VariableBridge.Number
