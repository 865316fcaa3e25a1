import DbClient.Proofs.Number.NumeralText
import DbClient.Proofs.Number.ShortestDecimal

/-! The text of decimals. Main statement: `FloatLayout.exists_isDecimalText_decimalText`, by which
a text in any layout denotes the value of the decimal that it was written for. -/

namespace DbClient.Number

/-- The digits of a number are the significant ones and zeros. -/
theorem natText_eq_significantText (n : Nat) :
    ∃ zeros, natText n = FloatLayout.significantText n ++ List.replicate zeros '0' := by
  have hSplit := List.takeWhile_append_dropWhile (p := (· == '0')) (l := (natText n).reverse)
  refine ⟨((natText n).reverse.takeWhile (· == '0')).length, ?_⟩
  have hZeros : (natText n).reverse.takeWhile (· == '0') =
      List.replicate ((natText n).reverse.takeWhile (· == '0')).length '0' := by
    apply List.eq_replicate_of_mem
    intro c hc
    simpa using List.mem_takeWhile_imp hc
  rw [FloatLayout.significantText, ← List.reverse_replicate, ← hZeros, ← List.reverse_append,
    hSplit, List.reverse_reverse]

/-- Digits without trailing zeros are digits. -/
theorem areDigits_significantText (n : Nat) : AreDigits (FloatLayout.significantText n) := by
  obtain ⟨zeros, hText⟩ := natText_eq_significantText n
  intro c hc
  apply areDigits_natText n c
  rw [hText]
  exact List.mem_append_left _ hc

theorem significantText_ne_nil {n : Nat} (hPos : 0 < n) : FloatLayout.significantText n ≠ [] := by
  intro hNone
  obtain ⟨zeros, hText⟩ := natText_eq_significantText n
  have hZero : natOfDigits (natText n) = 0 := by
    rw [hText, hNone, List.nil_append, natOfDigits_zeros]
  rw [natOfDigits_natText] at hZero
  exact hPos.ne' hZero

/-- The significant digits and the position of the point say what the decimal is. -/
theorem value_eq_significantText (decimal : Decimal) :
    decimal.value = natOfDigits (FloatLayout.significantText decimal.digits) *
      10 ^ (decimal.point - (FloatLayout.significantText decimal.digits).length) := by
  obtain ⟨zeros, hText⟩ := natText_eq_significantText decimal.digits
  have hDigits : decimal.digits =
      natOfDigits (FloatLayout.significantText decimal.digits) * 10 ^ zeros := by
    conv => lhs; rw [← natOfDigits_natText decimal.digits, hText, natOfDigits_append,
      natOfDigits_zeros, List.length_replicate, Nat.add_zero]
  have hLength : (Decimal.length decimal.digits : Int) =
      (FloatLayout.significantText decimal.digits).length + zeros := by
    have hParts := congrArg List.length hText
    rw [List.length_append, List.length_replicate] at hParts
    exact_mod_cast hParts
  have hPoint : decimal.point - (FloatLayout.significantText decimal.digits).length =
      (zeros : Int) + decimal.exponent := by
    rw [Decimal.point, hLength]
    omega
  rw [hPoint, zpow_add₀ (by norm_num), zpow_natCast, ← mul_assoc, Decimal.value]
  congr 1
  exact_mod_cast hDigits

/-- A whole number is written as an exponent is, with or without a plus sign. -/
theorem isExponentText_intText {exponent : Int} {sign : List Char}
    (hSign : sign = [] ∨ sign = ['+'] ∧ 0 ≤ exponent) :
    IsExponentText ('e' :: (sign ++ intText exponent)) exponent := by
  apply IsExponentText.marked (.inl rfl)
  rcases hSign with rfl | ⟨rfl, hPos⟩
  · exact isIntegerText_intText exponent
  · have hText := isIntegerText_natText .plus exponent.natAbs
    have hValue : withSign false exponent.natAbs = exponent := Int.natAbs_of_nonneg hPos
    rwa [hValue, ← intText_of_nonneg hPos] at hText

namespace FloatLayout

/-- Digits without an exponent denote the digits behind the point at its position. -/
theorem exists_isDecimalText_positional {digits : List Char} (hDigits : AreDigits digits)
    (hSome : digits ≠ []) (point : Int) :
    ∃ decimal, IsDecimalText (positional digits point) decimal ∧
      decimal.value = natOfDigits digits * 10 ^ (point - digits.length) := by
  by_cases hPoint : point ≤ 0
  · have hPlaces := areDigits_append (areDigits_zeros (-point).toNat) hDigits
    have hText : positional digits point =
        List.replicate 1 '0' ++ '.' :: (List.replicate (-point).toNat '0' ++ digits) := by
      simp [positional, hPoint]
    have hExponent : -(((-point).toNat + digits.length : Nat) : Int) = point - digits.length := by
      omega
    rw [hText]
    refine ⟨_, .places (areDigits_zeros 1) hPlaces (by simp), ?_⟩
    simp only [Decimal.value, natOfDigits_append, natOfDigits_zeros, Nat.zero_mul, Nat.zero_add,
      List.length_append, List.length_replicate, hExponent]
  · by_cases hShort : digits.length ≤ point.toNat
    · have hWhole := areDigits_append hDigits (areDigits_zeros (point.toNat - digits.length))
      have hText : positional digits point =
          (digits ++ List.replicate (point.toNat - digits.length) '0') ++
            '.' :: List.replicate 1 '0' := by
        simp [positional, hPoint, hShort]
      have hExponent : point - digits.length = ((point.toNat - digits.length : Nat) : Int) := by
        omega
      rw [hText]
      refine ⟨_, .places hWhole (areDigits_zeros 1) (by simp [hSome]), ?_⟩
      simp only [Decimal.value, natOfDigits_append, natOfDigits_zeros, Nat.add_zero,
        List.length_replicate, hExponent, zpow_natCast, Nat.cast_mul, Nat.cast_pow]
      norm_num
      ring
    · have hText : positional digits point =
          digits.take point.toNat ++ '.' :: digits.drop point.toNat := by
        simp [positional, hPoint, hShort]
      have hWhole : AreDigits (digits.take point.toNat) :=
        fun c hc => hDigits c (List.mem_of_mem_take hc)
      have hPlaces : AreDigits (digits.drop point.toNat) :=
        fun c hc => hDigits c (List.mem_of_mem_drop hc)
      have hFirst : digits.take point.toNat ≠ [] := by
        simp [List.take_eq_nil_iff, hSome]
        omega
      have hExponent : -((digits.length - point.toNat : Nat) : Int) = point - digits.length := by
        omega
      rw [hText]
      refine ⟨_, .places hWhole hPlaces hFirst, ?_⟩
      simp only [Decimal.value, List.take_append_drop, List.length_drop, hExponent]

/-- Digits with an exponent denote the digits behind the point at its position. -/
theorem exists_isDecimalText_scientific (layout : FloatLayout) {digits : List Char}
    (hDigits : AreDigits digits) (hSome : digits ≠ []) (point : Int) :
    ∃ decimal, IsDecimalText (layout.scientific digits point) decimal ∧
      decimal.value = natOfDigits digits * 10 ^ (point - digits.length) := by
  have hExponent : IsExponentText ('e' ::
      ((if layout.plusSign ∧ 0 ≤ point - 1 then ['+'] else []) ++ intText (point - 1)))
        (point - 1) := by
    apply isExponentText_intText
    split
    · rename_i hPlus
      exact .inr ⟨rfl, hPlus.2⟩
    · exact .inl rfl
  match digits with
  | [] => exact absurd rfl hSome
  | [first] =>
      have hText : layout.scientific [first] point = [first] ++ 'e' ::
          ((if layout.plusSign ∧ 0 ≤ point - 1 then ['+'] else []) ++ intText (point - 1)) := by
        simp [scientific]
      rw [hText]
      exact ⟨_, .whole hDigits hSome hExponent, rfl⟩
  | first :: second :: others =>
      have hText : layout.scientific (first :: second :: others) point =
          [first] ++ '.' :: (second :: others ++ 'e' ::
            ((if layout.plusSign ∧ 0 ≤ point - 1 then ['+'] else []) ++ intText (point - 1))) := by
        simp [scientific]
      have hFirst : AreDigits [first] := by
        intro c hc
        rw [List.mem_singleton.mp hc]
        exact hDigits first List.mem_cons_self
      have hPlaces : AreDigits (second :: others) :=
        fun c hc => hDigits c (List.mem_cons_of_mem _ hc)
      have hLength : point - 1 - ((second :: others).length : Int) =
          point - (first :: second :: others).length := by
        simp only [List.length_cons]
        omega
      rw [hText]
      refine ⟨_, .pointed hFirst hPlaces (.inl (by simp)) hExponent, ?_⟩
      rw [Decimal.value, hLength]
      rfl

/-- The text of a decimal denotes the value of the decimal. -/
theorem exists_isDecimalText_decimalText (layout : FloatLayout) {decimal : Decimal}
    (hPos : 0 < decimal.digits) :
    ∃ read, IsDecimalText (layout.decimalText decimal) read ∧ read.value = decimal.value := by
  have hDigits := areDigits_significantText decimal.digits
  have hSome := significantText_ne_nil hPos
  rw [value_eq_significantText, decimalText]
  split
  · exact exists_isDecimalText_positional hDigits hSome decimal.point
  · exact layout.exists_isDecimalText_scientific hDigits hSome decimal.point

end FloatLayout

end DbClient.Number
