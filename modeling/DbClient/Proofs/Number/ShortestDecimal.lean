import DbClient.Proofs.Number.Rounding

/-! Decimals that read back as a binary pattern. Main statements: `Decimal.toBinary_congr`, by
which reading depends on the value of a decimal only, and `toBinary_shortestDecimal`, by which
the shortest decimal for a pattern reads back as this pattern. -/

namespace DbClient.Number

namespace Decimal

/-- The number that a decimal stands for. -/
def value (decimal : Decimal) : ℚ :=
  decimal.digits * 10 ^ decimal.exponent

theorem length_le_iff {n count : Nat} (hCount : 0 < count) : length n ≤ count ↔ n < 10 ^ count :=
  Nat.length_toDigits_le_iff (by norm_num) hCount

/-- A number has no fewer digits than it needs. -/
theorem pow_length_le {n : Nat} (hPos : 0 < n) : 10 ^ (length n - 1) ≤ n := by
  have hLength : 0 < length n := Nat.length_toDigits_pos
  by_cases hOne : length n = 1
  · rw [hOne]
    exact hPos
  · apply Nat.le_of_not_lt
    rw [← length_le_iff (by omega)]
    omega

theorem lt_pow_length (n : Nat) : n < 10 ^ length n :=
  (length_le_iff Nat.length_toDigits_pos).mp le_rfl

/-- The decimal point says between which powers of ten the value lies. -/
theorem point_eq_log {decimal : Decimal} (hPos : 0 < decimal.digits) :
    decimal.point = Int.log 10 decimal.value + 1 := by
  have hDigits : (0 : ℚ) < decimal.digits := by exact_mod_cast hPos
  have hPower : (0 : ℚ) < 10 ^ decimal.exponent := by positivity
  have hLength : 0 < length decimal.digits := Nat.length_toDigits_pos
  have hLow : (length decimal.digits - 1 : Nat) + decimal.exponent ≤ Int.log 10 decimal.value := by
    apply (Int.zpow_le_iff_le_log (by norm_num) (mul_pos hDigits hPower)).mp
    rw [Nat.cast_ofNat, zpow_add₀ (by norm_num), zpow_natCast]
    apply mul_le_mul_of_nonneg_right _ hPower.le
    exact_mod_cast pow_length_le hPos
  have hHigh : Int.log 10 decimal.value < length decimal.digits + decimal.exponent := by
    apply (Int.lt_zpow_iff_log_lt (by norm_num) (mul_pos hDigits hPower)).mp
    rw [Nat.cast_ofNat, zpow_add₀ (by norm_num), zpow_natCast]
    apply mul_lt_mul_of_pos_right _ hPower
    exact_mod_cast lt_pow_length decimal.digits
  rw [point]
  omega

/-- The fraction that a decimal is rounded as has the value of the decimal. -/
theorem fraction_eq_value (decimal : Decimal) :
    ((decimal.digits * 10 ^ decimal.exponent.toNat : Nat) : ℚ) /
      ((10 ^ (-decimal.exponent).toNat : Nat) : ℚ) = decimal.value := by
  have hSplit : decimal.exponent =
      (decimal.exponent.toNat : Int) - ((-decimal.exponent).toNat : Int) := by omega
  rw [value]
  conv => rhs; rw [hSplit, zpow_sub₀ (by norm_num), zpow_natCast, zpow_natCast]
  push_cast
  ring

theorem value_eq_zero_iff (decimal : Decimal) : decimal.value = 0 ↔ decimal.digits = 0 := by
  have hPower : (10 : ℚ) ^ decimal.exponent ≠ 0 := zpow_ne_zero _ (by norm_num)
  rw [value, mul_eq_zero_iff_right hPower, Nat.cast_eq_zero]

/-- Reading depends on the value of a decimal only. -/
theorem toBinary_congr (format : BinaryFormat) {left right : Decimal}
    (hValue : left.value = right.value) : left.toBinary format = right.toBinary format := by
  have hZero : left.digits = 0 ↔ right.digits = 0 := by
    rw [← value_eq_zero_iff, ← value_eq_zero_iff, hValue]
  by_cases hLeft : left.digits = 0
  · simp [toBinary, hLeft, hZero.mp hLeft]
  · have hRight : right.digits ≠ 0 := fun hRight => hLeft (hZero.mpr hRight)
    have hPoint : left.point = right.point := by
      rw [point_eq_log (Nat.pos_of_ne_zero hLeft), point_eq_log (Nat.pos_of_ne_zero hRight), hValue]
    have hRound : format.round (left.digits * 10 ^ left.exponent.toNat)
        (10 ^ (-left.exponent).toNat) =
          format.round (right.digits * 10 ^ right.exponent.toNat) (10 ^ (-right.exponent).toNat) := by
      apply format.round_congr (Nat.pow_pos (by norm_num)) (Nat.pow_pos (by norm_num))
      rw [fraction_eq_value, fraction_eq_value, hValue]
    simp only [toBinary, hLeft, hRight, hPoint, Nat.pow_eq, hRound]

end Decimal

namespace BinaryFormat

variable (format : BinaryFormat)

/-- The powers of ten within reach are beyond the numbers of the format. -/
structure InReach : Prop where
  least : (10 : ℚ) ^ (-Decimal.reach - 1) ≤ 2 ^ format.leastExponent
  greatest : (2 : ℚ) ^ (format.leastExponent + (2 ^ format.exponentBits + format.precision : Nat)) ≤
    10 ^ Decimal.reach

theorem two_pow_le_ten_pow {small great : Nat} (hGreat : small ≤ 3 * great) :
    (2 : ℚ) ^ small ≤ 10 ^ great := by
  calc (2 : ℚ) ^ small ≤ 2 ^ (3 * great) := pow_le_pow_right₀ one_le_two hGreat
    _ = 8 ^ great := by
      rw [pow_mul]
      norm_num
    _ ≤ 10 ^ great := pow_le_pow_left₀ (by norm_num) (by norm_num) great

/-- The powers of ten within reach are beyond the numbers of 64 bits on both sides. -/
theorem inReach_binary64 : binary64.InReach := by
  constructor
  · show (10 : ℚ) ^ (-(401 : Nat) : Int) ≤ 2 ^ (-(1074 : Nat) : Int)
    rw [zpow_neg, zpow_neg, zpow_natCast, zpow_natCast]
    exact inv_anti₀ (by positivity) (two_pow_le_ten_pow (by norm_num))
  · show (2 : ℚ) ^ ((1027 : Nat) : Int) ≤ 10 ^ ((400 : Nat) : Int)
    rw [zpow_natCast, zpow_natCast]
    exact two_pow_le_ten_pow (by norm_num)

/-- A decimal with the magnitude of a finite pattern reads back as this pattern. -/
theorem toBinary_of_magnitude (hReach : format.InReach) {pattern : Nat} (hPos : 0 < pattern)
    (hFinite : pattern < format.infinity) {decimal : Decimal}
    (hValue : decimal.value = format.magnitude pattern) : decimal.toBinary format = pattern := by
  obtain ⟨hLeast, hGreatest⟩ := format.magnitude_bounds hPos hFinite
  have hMagnitude : 0 < format.magnitude pattern := lt_of_lt_of_le (by positivity) hLeast
  have hDigits : decimal.digits ≠ 0 := by
    rw [ne_eq, ← Decimal.value_eq_zero_iff, hValue]
    exact hMagnitude.ne'
  have hPoint := Decimal.point_eq_log (Nat.pos_of_ne_zero hDigits)
  have hLow : -Decimal.reach - 1 ≤ Int.log 10 (format.magnitude pattern) := by
    apply (Int.zpow_le_iff_le_log (by norm_num) hMagnitude).mp
    rw [Nat.cast_ofNat]
    exact hReach.least.trans hLeast
  have hHigh : Int.log 10 (format.magnitude pattern) < Decimal.reach := by
    apply (Int.lt_zpow_iff_log_lt (by norm_num) hMagnitude).mp
    rw [Nat.cast_ofNat]
    exact lt_of_lt_of_le hGreatest hReach.greatest
  rw [hValue] at hPoint
  have hAbove : ¬(decimal.digits = 0 ∨ decimal.point < -Decimal.reach) := by omega
  have hBelow : ¬Decimal.reach < decimal.point := by omega
  rw [Decimal.toBinary, if_neg hAbove, if_neg hBelow]
  apply format.round_of_magnitude hFinite (Nat.pow_pos (by norm_num))
  rw [← hValue]
  exact decimal.fraction_eq_value

/-- The decimal with every digit has the magnitude of its pattern. -/
theorem value_exactDecimal (pattern : Nat) :
    (format.exactDecimal pattern).value = format.magnitude pattern := by
  have hSplit (exponent : Int) : (2 : ℚ) ^ exponent =
      2 ^ exponent.toNat / 2 ^ (-exponent).toNat := by
    rw [← powerOfTwo_div]
    simp [powerOfTwo]
  have hTen (places : Nat) : (10 : ℚ) ^ places = 2 ^ places * 5 ^ places := by
    rw [← mul_pow]
    norm_num
  simp only [exactDecimal, Decimal.value, magnitude, zpow_neg, zpow_natCast, hSplit, hTen,
    Nat.pow_eq, Nat.cast_mul, Nat.cast_pow, Nat.cast_ofNat]
  field_simp

/-- Whatever is found with a given number of digits reads back. -/
theorem toBinary_nearestDecimal? {tie : TieRule} {pattern count : Nat} {decimal : Decimal}
    (hFound : format.nearestDecimal? tie pattern count = some decimal) :
    decimal.toBinary format = pattern := by
  have hReads := List.find?_some hFound
  simpa using hReads

/-- The shortest decimal for a pattern reads back as this pattern. -/
theorem toBinary_shortestDecimal (hReach : format.InReach) (tie : TieRule) {pattern : Nat}
    (hPos : 0 < pattern) (hFinite : pattern < format.infinity) :
    (format.shortestDecimal tie pattern).toBinary format = pattern := by
  rw [shortestDecimal]
  cases hFound : (List.range' 1 (format.precision / 3 + 2)).findSome?
      (format.nearestDecimal? tie pattern) with
  | none =>
      rw [Option.getD_none]
      exact format.toBinary_of_magnitude hReach hPos hFinite (format.value_exactDecimal pattern)
  | some decimal =>
      obtain ⟨count, -, hNearest⟩ := List.exists_of_findSome?_eq_some hFound
      rw [Option.getD_some]
      exact format.toBinary_nearestDecimal? hNearest

end BinaryFormat

end DbClient.Number
