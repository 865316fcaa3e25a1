import DbClient.Proofs.Number.NumeralText
import DbClient.Proofs.Number.ShortestDecimal
import DbClient.Scalar.Basic

/-! The text of decimals with a scale. Main statement: `Scalar.decimal_text_exact`, by which the
text denotes the decimal without rounding, is laid out by the scale, and tells decimals apart that
differ in their scale only. -/

namespace DbClient

namespace Number

/-! ### Digits -/

theorem natText_of_lt_ten {n : Nat} (hn : n < 10) : natText n = [Nat.digitChar n] :=
  Nat.toDigits_of_lt_base hn

/-- The last digit stands behind those of a tenth. -/
theorem natText_of_ten_le {n : Nat} (hn : 10 ≤ n) :
    natText n = natText (n / 10) ++ [Nat.digitChar (n % 10)] :=
  Nat.toDigits_of_base_le (by decide) hn

/-- Digits without a zero in front of others. -/
structure IsWholePart (digits : List Char) : Prop where
  areDigits : AreDigits digits
  ne_nil : digits ≠ []
  eq_zero : digits.head? = some '0' → digits = ['0']

/-- The text of a number has no leading zero, unless it is zero. -/
theorem isWholePart_natText (n : Nat) : IsWholePart (natText n) := by
  refine ⟨areDigits_natText n, Nat.toDigits_ne_nil, ?_⟩
  induction n using Nat.strongRecOn with
  | ind n ih =>
      rcases Nat.lt_or_ge n 10 with hLess | hMore
      · rw [natText_of_lt_ten hLess]
        simp
      · have hSome : natText (n / 10) ≠ [] := Nat.toDigits_ne_nil
        rw [natText_of_ten_le hMore, List.head?_append_of_ne_nil _ hSome]
        intro hHead
        have hTenth := ih (n / 10) (by omega) hHead
        have hZero : natOfDigits (natText (n / 10)) = 0 := by rw [hTenth]; rfl
        rw [natOfDigits_natText] at hZero
        omega

theorem paddedText_one (n : Nat) : paddedText 1 n = natText n := by
  have hLength : 0 < (natText n).length := Nat.length_toDigits_pos
  rw [paddedText, Nat.sub_eq_zero_of_le hLength, List.replicate_zero, List.nil_append]

/-- With zeros in front the last digit stands behind those of a tenth, too. -/
theorem paddedText_succ {width : Nat} (hWidth : 0 < width) (n : Nat) :
    paddedText (width + 1) n = paddedText width (n / 10) ++ [Nat.digitChar (n % 10)] := by
  rcases Nat.lt_or_ge n 10 with hLess | hMore
  · obtain ⟨others, rfl⟩ := Nat.exists_eq_succ_of_ne_zero hWidth.ne'
    have hZero : natText 0 = ['0'] := rfl
    simp [paddedText, natText_of_lt_ten hLess, Nat.div_eq_of_lt hLess, Nat.mod_eq_of_lt hLess,
      hZero, List.replicate_succ']
  · rw [paddedText, paddedText, natText_of_ten_le hMore, List.length_append, List.length_singleton,
      Nat.add_sub_add_right, List.append_assoc]

/-- So many digits at the end are those of the remainder, and those in front of them are those of
the quotient. -/
theorem paddedText_split (places n : Nat) :
    paddedText (places + 2) n =
      natText (n / 10 ^ (places + 1)) ++ paddedText (places + 1) (n % 10 ^ (places + 1)) := by
  induction places generalizing n with
  | zero =>
      have hLast : n % 10 < 10 := Nat.mod_lt n (by decide)
      rw [paddedText_succ Nat.one_pos, paddedText_one, paddedText_one, Nat.pow_one,
        natText_of_lt_ten hLast]
  | succ places ih =>
      have hQuotient : n / 10 / 10 ^ (places + 1) = n / 10 ^ (places + 2) := by
        rw [Nat.div_div_eq_div_mul, ← Nat.pow_succ']
      have hRemainder : n % 10 ^ (places + 2) / 10 = n / 10 % 10 ^ (places + 1) := by
        rw [Nat.pow_succ', Nat.mod_mul_right_div_self]
      have hLast : n % 10 ^ (places + 2) % 10 = n % 10 :=
        Nat.mod_mod_of_dvd n (dvd_pow_self 10 (Nat.succ_ne_zero _))
      rw [paddedText_succ (Nat.succ_pos _), ih, List.append_assoc,
        paddedText_succ (Nat.succ_pos places) (n % 10 ^ (places + 2)), hQuotient, hRemainder, hLast]

theorem length_paddedText {width n : Nat} (hWidth : 0 < width) (hn : n < 10 ^ width) :
    (paddedText width n).length = width := by
  have hLength : (natText n).length ≤ width :=
    (Nat.length_toDigits_le_iff (by decide) hWidth).mpr hn
  rw [paddedText, List.length_append, List.length_replicate]
  omega

/-! ### Magnitudes with a scale -/

theorem scaledMagnitudeText_of_great {scale : Nat} (hGreat : greatestPlainScale < scale)
    (unscaled : Nat) :
    scaledMagnitudeText unscaled scale = natText unscaled ++ 'E' :: '-' :: natText scale := by
  rw [scaledMagnitudeText, if_pos hGreat]

/-- In plain notation the point stands between the quotient and the remainder. -/
theorem scaledMagnitudeText_of_plain {scale : Nat} (hPos : 0 < scale)
    (hPlain : scale ≤ greatestPlainScale) (unscaled : Nat) :
    scaledMagnitudeText unscaled scale =
      natText (unscaled / 10 ^ scale) ++ '.' :: paddedText scale (unscaled % 10 ^ scale) := by
  obtain ⟨places, rfl⟩ := Nat.exists_eq_succ_of_ne_zero hPos.ne'
  have hPlaces : (paddedText (places + 1) (unscaled % 10 ^ (places + 1))).length = places + 1 :=
    length_paddedText hPos (Nat.mod_lt _ (Nat.pow_pos (by decide)))
  rw [scaledMagnitudeText, if_neg (Nat.not_lt.mpr hPlain), if_neg hPos.ne']
  simp only [Nat.succ_eq_add_one, paddedText_split places unscaled, List.length_append, hPlaces,
    Nat.add_sub_cancel, List.take_left, List.drop_left]

/-- A magnitude is read as the unscaled number and the scale that it was written for. -/
theorem isDecimalText_scaledMagnitudeText (unscaled scale : Nat) :
    IsDecimalText (scaledMagnitudeText unscaled scale) ⟨unscaled, -scale⟩ := by
  rcases Nat.lt_or_ge greatestPlainScale scale with hGreat | hPlain
  · have hExponent : IsExponentText ('E' :: '-' :: natText scale) (-scale) :=
      .marked (.inr rfl) (isIntegerText_natText .minus scale)
    have hText := IsDecimalText.whole (areDigits_natText unscaled) Nat.toDigits_ne_nil hExponent
    rwa [natOfDigits_natText, ← scaledMagnitudeText_of_great hGreat] at hText
  · rcases Nat.eq_zero_or_pos scale with rfl | hPos
    · have hText := IsDecimalText.whole (areDigits_natText unscaled) Nat.toDigits_ne_nil .absent
      rwa [natOfDigits_natText, List.append_nil] at hText
    · have hRemainder : unscaled % 10 ^ scale < 10 ^ scale :=
        Nat.mod_lt _ (Nat.pow_pos (by decide))
      have hPlaces := length_paddedText hPos hRemainder
      have hDigits : natOfDigits (natText (unscaled / 10 ^ scale) ++
          paddedText scale (unscaled % 10 ^ scale)) = unscaled := by
        rw [natOfDigits_append, natOfDigits_natText, natOfDigits_paddedText, hPlaces]
        exact Nat.div_add_mod' unscaled (10 ^ scale)
      have hText := IsDecimalText.places (areDigits_natText (unscaled / 10 ^ scale))
        (areDigits_paddedText scale (unscaled % 10 ^ scale)) Nat.toDigits_ne_nil
      rwa [hDigits, hPlaces, ← scaledMagnitudeText_of_plain hPos hPlain] at hText

/-! ### Decimals -/

/-- The number that a numeral denotes. -/
def Numeral.value? : Numeral → Option ℚ
  | notANumber => none
  | infinite _ => none
  | finite negative decimal => some (if negative then -decimal.value else decimal.value)

/-- A scaled number is written as its magnitude behind its sign. -/
theorem scaledText_eq (unscaled : Int) (scale : Nat) :
    scaledText unscaled scale =
      (if unscaled < 0 then ['-'] else []) ++ scaledMagnitudeText unscaled.natAbs scale := by
  rw [scaledText]
  split <;> rfl

/-- The text of a scaled number is a numeral, with its digits and its scale. -/
theorem isNumeralText_scaledText (unscaled : Int) (scale : Nat) :
    IsNumeralText (scaledText unscaled scale)
      (.finite (unscaled < 0) ⟨unscaled.natAbs, -scale⟩) := by
  have hMagnitude := isDecimalText_scaledMagnitudeText unscaled.natAbs scale
  by_cases hNegative : unscaled < 0
  · simp only [scaledText_eq, hNegative, if_true, decide_true]
    exact .signed .minus (.finite hMagnitude)
  · simp only [scaledText_eq, hNegative, if_false, decide_false]
    exact .signed .none (.finite hMagnitude)

theorem value?_scaled (unscaled : Int) (scale : Nat) :
    (Numeral.finite (unscaled < 0) ⟨unscaled.natAbs, -scale⟩).value? =
      some (unscaled / 10 ^ scale : ℚ) := by
  rw [Numeral.value?, Decimal.value, zpow_neg, zpow_natCast, ← div_eq_mul_inv, Nat.cast_natAbs]
  by_cases hNegative : unscaled < 0
  · rw [if_pos (decide_eq_true hNegative), abs_of_neg hNegative, Int.cast_neg, neg_div, neg_neg]
  · rw [if_neg (by simpa using hNegative), abs_of_nonneg (Int.not_lt.mp hNegative)]

/-- The text tells decimals apart, also those of the same value. -/
theorem eq_of_scaledText_eq {unscaled other : Int} {scale otherScale : Nat}
    (hText : scaledText other otherScale = scaledText unscaled scale) :
    other = unscaled ∧ otherScale = scale := by
  have hOther := isNumeralText_scaledText other otherScale
  rw [hText] at hOther
  have hSame := (isNumeralText_scaledText unscaled scale).unique hOther
  simp only [Numeral.finite.injEq, decide_eq_decide, Decimal.mk.injEq] at hSame
  omega

/-- Only numbers below zero start with a minus. -/
theorem head?_scaledText (unscaled : Int) (scale : Nat) :
    (scaledText unscaled scale).head? = some '-' ↔ unscaled < 0 := by
  by_cases hNegative : unscaled < 0
  · simp [scaledText_eq, hNegative]
  · have hMagnitude : IsMagnitudeText false (scaledMagnitudeText unscaled.natAbs scale) _ :=
      .finite (isDecimalText_scaledMagnitudeText unscaled.natAbs scale)
    simp only [scaledText_eq, hNegative, if_false, List.nil_append, iff_false]
    intro hHead
    exact hMagnitude.ne_cons (.inr rfl) _ (List.eq_cons_of_mem_head? hHead)

theorem point_not_mem_intText (n : Int) : '.' ∉ intText n := by
  have hDigits : '.' ∉ natText n.natAbs := by
    intro hMem
    exact absurd (areDigits_natText n.natAbs '.' hMem) (by decide)
  rw [intText]
  split
  · simpa using hDigits
  · exact hDigits

/-- In plain notation there are as many digits behind the point as the scale says. -/
theorem exists_places {scale : Nat} (hPos : 0 < scale) (hPlain : scale ≤ greatestPlainScale)
    (unscaled : Int) :
    ∃ whole places, scaledText unscaled scale =
        (if unscaled < 0 then ['-'] else []) ++ (whole ++ '.' :: places) ∧
      IsWholePart whole ∧ AreDigits places ∧ places.length = scale := by
  have hRemainder : unscaled.natAbs % 10 ^ scale < 10 ^ scale :=
    Nat.mod_lt _ (Nat.pow_pos (by decide))
  refine ⟨natText (unscaled.natAbs / 10 ^ scale),
    paddedText scale (unscaled.natAbs % 10 ^ scale), ?_, isWholePart_natText _,
    areDigits_paddedText scale _, length_paddedText hPos hRemainder⟩
  rw [scaledText_eq, scaledMagnitudeText_of_plain hPos hPlain]

theorem scaledText_of_great {scale : Nat} (hGreat : greatestPlainScale < scale) (unscaled : Int) :
    scaledText unscaled scale = intText unscaled ++ 'E' :: '-' :: natText scale := by
  rw [scaledText, scaledMagnitudeText_of_great hGreat, intText]
  split <;> rfl

end Number

/-- The text of a decimal denotes it without rounding and nothing else, with a minus sign exactly
if it is negative. There is no point without a scale; up to the greatest plain scale there are as
many digits behind the point as the scale says, and beyond it there is an exponent. No other
decimal has the same text, not even one with the same value. -/
theorem Scalar.decimal_text_exact (unscaled : Int) (scale : Nat) :
    (∃ numeral, (∀ other,
        Number.IsNumeralText (decimal unscaled scale).toText.toList other ↔ other = numeral) ∧
      numeral.value? = some (unscaled / 10 ^ scale : ℚ)) ∧
    let text := (decimal unscaled scale).toText.toList
    (text.head? = some '-' ↔ unscaled < 0) ∧
    (scale = 0 → '.' ∉ text) ∧
    (0 < scale → scale ≤ 38 → ∃ whole places,
      text = (if unscaled < 0 then ['-'] else []) ++ (whole ++ '.' :: places) ∧
      Number.IsWholePart whole ∧ Number.AreDigits places ∧ places.length = scale) ∧
    (38 < scale →
      text = Number.intText unscaled ++ 'E' :: '-' :: Number.natText scale) ∧
    ∀ other otherScale, (decimal other otherScale).toText.toList = text →
      other = unscaled ∧ otherScale = scale := by
  have hList (n : Int) (places : Nat) :
      (decimal n places).toText.toList = Number.scaledText n places := String.toList_ofList
  have hNumeral := Number.isNumeralText_scaledText unscaled scale
  rw [hList]
  refine ⟨⟨_, fun other => ⟨hNumeral.unique, ?_⟩, Number.value?_scaled unscaled scale⟩,
    Number.head?_scaledText unscaled scale, ?_, ?_, ?_, ?_⟩
  · rintro rfl
    exact hNumeral
  · rintro rfl
    exact Number.point_not_mem_intText unscaled
  · exact fun hPos hPlain => Number.exists_places hPos hPlain unscaled
  · exact fun hGreat => Number.scaledText_of_great hGreat unscaled
  · intro other otherScale hSame
    rw [hList] at hSame
    exact Number.eq_of_scaledText_eq hSame

/-- The least number of 128 bits with the greatest plain scale. -/
theorem Scalar.decimal_text_least :
    (Scalar.decimal (-2 ^ 127) 38).toText = "-1.70141183460469231731687303715884105728" ∧
    (∃ whole places, (Scalar.decimal (-2 ^ 127) 38).toText.toList =
        ['-'] ++ (whole ++ '.' :: places) ∧
      Number.IsWholePart whole ∧ Number.AreDigits places ∧ places.length = 38) ∧
    (Scalar.decimal (-2 ^ 127) 38).toText ≠ (Scalar.decimal (-2 ^ 127) 39).toText := by
  obtain ⟨-, -, -, hPlain, -, hApart⟩ := decimal_text_exact (-2 ^ 127) 38
  refine ⟨by decide, hPlain (by decide) (by decide), ?_⟩
  intro hSame
  exact absurd (hApart _ 39 (congrArg String.toList hSame.symm)).2 (by decide)

end DbClient
