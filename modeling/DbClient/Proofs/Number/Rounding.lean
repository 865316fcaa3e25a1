import DbClient.Number.Decimal
import Mathlib.Algebra.Order.Field.Power
import Mathlib.Data.Int.Log
import Mathlib.Data.Rat.Floor
import Mathlib.Tactic.FieldSimp
import Mathlib.Tactic.NormNum
import Mathlib.Tactic.Positivity
import Mathlib.Tactic.Ring

/-! Rounding to binary formats. Main statements: `round_congr`, by which rounding depends on the
value of a fraction only, and `round_fraction`, by which the magnitude of a finite pattern is
rounded to that pattern. -/

namespace DbClient.Number.BinaryFormat

variable (format : BinaryFormat)

theorem powerOfTwo_pos (exponent : Int) :
    0 < (powerOfTwo exponent).1 ∧ 0 < (powerOfTwo exponent).2 :=
  ⟨Nat.two_pow_pos _, Nat.two_pow_pos _⟩

theorem powerOfTwo_div (exponent : Int) :
    ((powerOfTwo exponent).1 : ℚ) / (powerOfTwo exponent).2 = 2 ^ exponent := by
  have hSplit : exponent = (exponent.toNat : Int) - ((-exponent).toNat : Int) := by omega
  conv => rhs; rw [hSplit, zpow_sub₀ two_ne_zero, zpow_natCast, zpow_natCast]
  simp [powerOfTwo]

/-- A fraction is compared with a multiple of a power of two in natural numbers. -/
theorem lt_mul_powerOfTwo_iff (numerator factor : Nat) {denominator : Nat} (hPos : 0 < denominator)
    (exponent : Int) :
    numerator * (powerOfTwo exponent).2 < factor * (denominator * (powerOfTwo exponent).1) ↔
      (numerator : ℚ) / denominator < factor * 2 ^ exponent := by
  have hDown : (0 : ℚ) < (powerOfTwo exponent).2 := by exact_mod_cast (powerOfTwo_pos exponent).2
  have hDenominator : (0 : ℚ) < denominator := by exact_mod_cast hPos
  rw [← powerOfTwo_div, mul_div_assoc', div_lt_div_iff₀ hDenominator hDown, mul_assoc,
    mul_comm ((powerOfTwo exponent).1 : ℚ)]
  exact_mod_cast Iff.rfl

/-- The logarithm of a fraction is the difference of the logarithms or one less. -/
theorem log_div_bounds {numerator denominator : Nat} (hN : 0 < numerator) (hD : 0 < denominator) :
    (numerator.log2 : Int) - denominator.log2 - 1 ≤ Int.log 2 ((numerator : ℚ) / denominator) ∧
      Int.log 2 ((numerator : ℚ) / denominator) ≤ (numerator.log2 : Int) - denominator.log2 := by
  have hLow (n : Nat) (hn : 0 < n) : (2 : ℚ) ^ n.log2 ≤ n := by
    exact_mod_cast Nat.log2_self_le hn.ne'
  have hHigh (n : Nat) : (n : ℚ) < 2 ^ (n.log2 + 1) := by
    exact_mod_cast Nat.lt_log2_self
  have hDenominator : (0 : ℚ) < denominator := by exact_mod_cast hD
  have hQuotient : (0 : ℚ) < numerator / denominator := by positivity
  constructor
  · apply (Int.zpow_le_iff_le_log one_lt_two hQuotient).mp
    rw [le_div_iff₀ hDenominator]
    calc (2 : ℚ) ^ ((numerator.log2 : Int) - denominator.log2 - 1) * denominator
        ≤ (2 : ℚ) ^ ((numerator.log2 : Int) - denominator.log2 - 1) * 2 ^ (denominator.log2 + 1) :=
          mul_le_mul_of_nonneg_left (hHigh denominator).le (by positivity)
      _ = 2 ^ numerator.log2 := by
          rw [← zpow_natCast, ← zpow_natCast, ← zpow_add₀ two_ne_zero]
          congr 1
          push_cast
          ring
      _ ≤ numerator := hLow numerator hN
  · have hLess : Int.log 2 ((numerator : ℚ) / denominator) <
        (numerator.log2 : Int) - denominator.log2 + 1 := by
      apply (Int.lt_zpow_iff_log_lt one_lt_two hQuotient).mp
      rw [div_lt_iff₀ hDenominator]
      calc (numerator : ℚ) < 2 ^ (numerator.log2 + 1) := hHigh numerator
        _ = (2 : ℚ) ^ ((numerator.log2 : Int) - denominator.log2 + 1) * 2 ^ denominator.log2 := by
            rw [← zpow_natCast, ← zpow_natCast, ← zpow_add₀ two_ne_zero]
            congr 1
            push_cast
            ring
        _ ≤ (2 : ℚ) ^ ((numerator.log2 : Int) - denominator.log2 + 1) * denominator :=
            mul_le_mul_of_nonneg_left (hLow denominator hD) (by positivity)
    omega

/-- The exponent is that of the binade of the fraction, or the least one. -/
theorem exponentFor_eq {numerator denominator : Nat} (hN : 0 < numerator) (hD : 0 < denominator) :
    format.exponentFor numerator denominator =
      max (Int.log 2 ((numerator : ℚ) / denominator) - (format.precision - 1 : Nat))
        format.leastExponent := by
  obtain ⟨hLow, hHigh⟩ := log_div_bounds hN hD
  have hQuotient : (0 : ℚ) < numerator / denominator := by positivity
  have hBelow (estimate : Int) :
      numerator * (powerOfTwo estimate).2 < format.binade * (denominator * (powerOfTwo estimate).1) ↔
        Int.log 2 ((numerator : ℚ) / denominator) < (format.precision - 1 : Nat) + estimate := by
    rw [lt_mul_powerOfTwo_iff _ _ hD, ← Int.lt_zpow_iff_log_lt one_lt_two hQuotient,
      zpow_add₀ (by norm_num), zpow_natCast]
    simp [binade]
  simp only [exponentFor, hBelow]
  split <;> omega

/-- Rounding a fraction does not depend on how it is reduced. -/
theorem nearestEven_mul_left {factor : Nat} (hFactor : 0 < factor) (numerator denominator : Nat) :
    nearestEven (factor * numerator) (factor * denominator) = nearestEven numerator denominator := by
  have hTwice : 2 * (factor * (numerator % denominator)) = factor * (2 * (numerator % denominator)) := by
    ring
  simp only [nearestEven, Nat.mul_div_mul_left _ _ hFactor, Nat.mul_mod_mul_left, hTwice,
    Nat.mul_lt_mul_left hFactor]

/-- The nearest whole number to a fraction depends on its value only. -/
theorem nearestEven_congr {n d n' d' : Nat} (hD : 0 < d) (hD' : 0 < d') (hValue : n * d' = n' * d) :
    nearestEven n d = nearestEven n' d' := by
  rw [← nearestEven_mul_left hD' n d, ← nearestEven_mul_left hD n' d', Nat.mul_comm d' n, hValue,
    Nat.mul_comm n' d, Nat.mul_comm d' d]

/-- Rounding depends on the value of a fraction only. -/
theorem round_congr {n d n' d' : Nat} (hD : 0 < d) (hD' : 0 < d')
    (hValue : (n : ℚ) / d = n' / d') : format.round n d = format.round n' d' := by
  have hCross : n * d' = n' * d := by
    rw [div_eq_div_iff (by exact_mod_cast hD.ne') (by exact_mod_cast hD'.ne')] at hValue
    exact_mod_cast hValue
  rcases Nat.eq_zero_or_pos n with rfl | hN
  · have hZero : n' = 0 := by
      rw [Nat.zero_mul] at hCross
      exact (Nat.mul_eq_zero.mp hCross.symm).resolve_right hD.ne'
    simp [round, hZero]
  · have hN' : 0 < n' := Nat.pos_of_mul_pos_right (hCross ▸ Nat.mul_pos hN hD')
    have hExponent : format.exponentFor n d = format.exponentFor n' d' := by
      rw [exponentFor_eq format hN hD, exponentFor_eq format hN' hD', hValue]
    obtain ⟨hUp, hDown⟩ := powerOfTwo_pos (format.exponentFor n' d')
    have hNearest := nearestEven_congr (Nat.mul_pos hD hUp) (Nat.mul_pos hD' hUp)
      (n := n * (powerOfTwo (format.exponentFor n' d')).2)
      (by rw [mul_mul_mul_comm, hCross, mul_mul_mul_comm])
    simp only [round, hN.ne', hN'.ne', if_false, hExponent, hNearest]

/-- A finite pattern is its exponent field and its fraction. -/
theorem significand_spec (pattern : Nat) :
    (format.significand pattern).1 < 2 * format.binade ∧
      format.leastExponent ≤ (format.significand pattern).2 ∧
      ((format.significand pattern).1 < format.binade →
        (format.significand pattern).2 = format.leastExponent) ∧
      ((format.significand pattern).2 - format.leastExponent).toNat * format.binade +
        (format.significand pattern).1 = pattern := by
  have hBinade : 0 < format.binade := Nat.two_pow_pos _
  have hFraction := Nat.mod_lt pattern hBinade
  have hPattern := Nat.div_add_mod' pattern format.binade
  unfold significand
  by_cases hField : pattern / format.binade = 0
  · rw [hField, Nat.zero_mul, Nat.zero_add] at hPattern
    simp only [hField, if_true, Int.sub_self, Int.toNat_zero, Nat.zero_mul]
    exact ⟨by omega, le_rfl, fun _ => trivial, by omega⟩
  · obtain ⟨above, hAbove⟩ := Nat.exists_eq_succ_of_ne_zero hField
    rw [hAbove, Nat.succ_mul] at hPattern
    have hExponent : (format.leastExponent + (above : Nat) - format.leastExponent).toNat = above := by
      omega
    simp only [hAbove, Nat.succ_ne_zero, if_false, Nat.succ_sub_one, hExponent]
    omega

theorem eq_zero_of_significand {pattern : Nat} (hZero : (format.significand pattern).1 = 0) :
    pattern = 0 := by
  obtain ⟨-, -, hSubnormal, hPattern⟩ := format.significand_spec pattern
  have hExponent := hSubnormal (hZero ▸ Nat.two_pow_pos _)
  rw [← hPattern, hExponent, hZero, Int.sub_self, Int.toNat_zero, Nat.zero_mul]

/-- The number that a finite pattern stands for. -/
def magnitude (pattern : Nat) : ℚ :=
  (format.significand pattern).1 * 2 ^ (format.significand pattern).2

theorem fraction_div (pattern : Nat) :
    ((format.fraction pattern).1 : ℚ) / (format.fraction pattern).2 = format.magnitude pattern := by
  simp only [fraction, magnitude, Nat.cast_mul, mul_div_assoc, powerOfTwo_div]

theorem fraction_pos (pattern : Nat) : 0 < (format.fraction pattern).2 :=
  (powerOfTwo_pos _).2

/-- The logarithm of a significand with an exponent is the sum of both. -/
theorem log_mul_zpow {significand : Nat} (hPos : 0 < significand) (exponent : Int) :
    Int.log 2 ((significand : ℚ) * 2 ^ exponent) = significand.log2 + exponent := by
  have hPower : (0 : ℚ) < 2 ^ exponent := by positivity
  have hProduct : (0 : ℚ) < significand * 2 ^ exponent := by positivity
  apply le_antisymm
  · apply Int.lt_add_one_iff.mp
    apply (Int.lt_zpow_iff_log_lt one_lt_two hProduct).mp
    rw [add_right_comm, zpow_add₀ (by norm_num)]
    apply mul_lt_mul_of_pos_right _ hPower
    exact_mod_cast Nat.lt_log2_self
  · apply (Int.zpow_le_iff_le_log one_lt_two hProduct).mp
    rw [zpow_add₀ (by norm_num)]
    apply mul_le_mul_of_nonneg_right _ hPower.le
    exact_mod_cast Nat.log2_self_le hPos.ne'

/-- The exponent of a pattern is the one that its magnitude is rounded with. -/
theorem exponentFor_fraction {pattern : Nat} (hPos : 0 < (format.significand pattern).1) :
    format.exponentFor (format.fraction pattern).1 (format.fraction pattern).2 =
      (format.significand pattern).2 := by
  obtain ⟨hSignificand, hLeast, hSubnormal, -⟩ := format.significand_spec pattern
  have hNumerator : 0 < (format.fraction pattern).1 := Nat.mul_pos hPos (powerOfTwo_pos _).1
  rw [exponentFor_eq format hNumerator (format.fraction_pos pattern), fraction_div, magnitude,
    log_mul_zpow hPos]
  have hHigh : (format.significand pattern).1.log2 < format.precision - 1 + 1 := by
    apply (Nat.log2_lt hPos.ne').mpr
    rw [Nat.pow_succ']
    exact hSignificand
  have hLow : (format.significand pattern).1.log2 < format.precision - 1 ↔
      (format.significand pattern).1 < format.binade := Nat.log2_lt hPos.ne'
  by_cases hShort : (format.significand pattern).1 < format.binade
  · have hExponent := hSubnormal hShort
    omega
  · rw [← hLow] at hShort
    omega

theorem nearestEven_of_dvd {denominator : Nat} (hPos : 0 < denominator) (quotient : Nat) :
    nearestEven (quotient * denominator) denominator = quotient := by
  simp [nearestEven, hPos]

/-- The magnitude of a finite pattern is rounded to that pattern. -/
theorem round_fraction {pattern : Nat} (hFinite : pattern < format.infinity) :
    format.round (format.fraction pattern).1 (format.fraction pattern).2 = pattern := by
  have hPattern := (format.significand_spec pattern).2.2.2
  obtain ⟨hUp, hDown⟩ := powerOfTwo_pos (format.significand pattern).2
  rcases Nat.eq_zero_or_pos (format.significand pattern).1 with hZero | hPos
  · have hNone := format.eq_zero_of_significand hZero
    have hNumerator : (format.fraction pattern).1 = 0 := by simp [fraction, hZero]
    rw [round, if_pos hNumerator, hNone]
  · have hNearest : nearestEven
        ((format.fraction pattern).1 * (powerOfTwo (format.significand pattern).2).2)
        ((format.fraction pattern).2 * (powerOfTwo (format.significand pattern).2).1) =
          (format.significand pattern).1 := by
      simp only [fraction, Nat.mul_assoc]
      rw [Nat.mul_comm (powerOfTwo _).1]
      exact nearestEven_of_dvd (Nat.mul_pos hDown hUp) _
    have hNumerator : (format.fraction pattern).1 ≠ 0 := (Nat.mul_pos hPos hUp).ne'
    simp only [round, hNumerator, if_false, exponentFor_fraction format hPos, hNearest, hPattern]
    exact Nat.min_eq_left hFinite.le

/-- Every fraction with the value of a finite pattern is rounded to that pattern. -/
theorem round_of_magnitude {pattern n d : Nat} (hFinite : pattern < format.infinity) (hD : 0 < d)
    (hValue : (n : ℚ) / d = format.magnitude pattern) : format.round n d = pattern := by
  rw [← format.fraction_div] at hValue
  rw [format.round_congr hD (format.fraction_pos pattern) hValue, format.round_fraction hFinite]

/-- The magnitude of a positive finite pattern is neither below the least power of two of the
format nor above the greatest one. -/
theorem magnitude_bounds {pattern : Nat} (hPos : 0 < pattern) (hFinite : pattern < format.infinity) :
    (2 : ℚ) ^ format.leastExponent ≤ format.magnitude pattern ∧
      format.magnitude pattern <
        2 ^ (format.leastExponent + (2 ^ format.exponentBits + format.precision : Nat)) := by
  obtain ⟨hSignificand, hLeast, -, hPattern⟩ := format.significand_spec pattern
  have hSome : 0 < (format.significand pattern).1 :=
    Nat.pos_of_ne_zero fun hZero => hPos.ne' (format.eq_zero_of_significand hZero)
  have hBinades : ((format.significand pattern).2 - format.leastExponent).toNat <
      2 ^ format.exponentBits - 1 := by
    apply Nat.lt_of_mul_lt_mul_right (a := format.binade)
    exact lt_of_le_of_lt (Nat.le.intro hPattern) hFinite
  constructor
  · calc (2 : ℚ) ^ format.leastExponent ≤ 1 * 2 ^ (format.significand pattern).2 := by
          rw [one_mul]
          exact zpow_le_zpow_right₀ one_le_two hLeast
      _ ≤ format.magnitude pattern := by
          apply mul_le_mul_of_nonneg_right _ (by positivity)
          exact_mod_cast hSome
  · calc format.magnitude pattern
        < 2 ^ (format.precision - 1 + 1) * 2 ^ (format.significand pattern).2 := by
          apply mul_lt_mul_of_pos_right _ (by positivity)
          rw [pow_succ']
          exact_mod_cast hSignificand
      _ = 2 ^ ((format.precision - 1 + 1 : Nat) + (format.significand pattern).2) := by
          rw [zpow_add₀ two_ne_zero, zpow_natCast]
      _ ≤ 2 ^ (format.leastExponent + (2 ^ format.exponentBits + format.precision : Nat)) := by
          apply zpow_le_zpow_right₀ one_le_two
          omega

end DbClient.Number.BinaryFormat
