import DbClient.Proofs.Number.DecimalText
import Mathlib

/-! The text of floating-point numbers reads back. Main statements: `readFloat?_floatText`, by
which the text of a number that is not a NaN reads back as this number, and
`Numeral.isNumeralChar_of_read?`, by which only letters, digits, points and signs stand in the
text of a number. -/

namespace DbClient.Number

namespace FloatLayout

/-- The text of a finite magnitude denotes a decimal that is rounded to it. -/
theorem readDecimal?_magnitudeText (layout : FloatLayout) {format : BinaryFormat}
    (hReach : format.InReach) {pattern : Nat} (hFinite : pattern < format.infinity) :
    ∃ decimal, Numeral.readDecimal? (layout.magnitudeText format pattern) = some decimal ∧
      decimal.toBinary format = pattern := by
  rcases Nat.eq_zero_or_pos pattern with rfl | hPos
  · exact ⟨⟨0, -1⟩, rfl, rfl⟩
  · have hBinary := format.toBinary_shortestDecimal hReach layout.tie hPos hFinite
    have hDigits : 0 < (format.shortestDecimal layout.tie pattern).digits := by
      apply Nat.pos_of_ne_zero
      intro hZero
      rw [Decimal.toBinary, if_pos (.inl hZero)] at hBinary
      exact hPos.ne hBinary
    obtain ⟨decimal, hText, hValue⟩ := layout.exists_isDecimalText_decimalText hDigits
    refine ⟨decimal, ?_, ?_⟩
    · rw [magnitudeText, if_neg hPos.ne']
      exact Numeral.readDecimal?_eq_some_iff.mpr hText
    · rw [Decimal.toBinary_congr format hValue, hBinary]

end FloatLayout

namespace Numeral

/-- The characters of the text of a number. -/
def IsNumeralChar (c : Char) : Prop :=
  c.isAlphanum = true ∨ c = '.' ∨ c = '+' ∨ c = '-'

/-- Nothing but letters, digits, points and signs stands in the text of a number. -/
theorem isNumeralChar_of_read? {text : List Char} {numeral : Numeral}
    (hRead : read? text = some numeral) : ∀ c ∈ text, IsNumeralChar c := by
  intro c hc
  by_contra hOther
  simp only [IsNumeralChar, not_or, Bool.not_eq_true] at hOther
  obtain ⟨hAlphanum, hPoint, hPlus, hMinus⟩ := hOther
  have hCount := (read?_eq_some_iff.mp hRead).count_le hAlphanum
  rw [signs, points, if_neg (by simp [hPlus, hMinus]), if_neg hPoint] at hCount
  exact absurd (List.count_pos_iff.mpr hc) (by omega)

/-- A decimal is read with either sign. -/
theorem read?_of_readDecimal? {text : List Char} {decimal : Decimal}
    (hRead : readDecimal? text = some decimal) :
    read? text = some (finite false decimal) ∧ read? ('-' :: text) = some (finite true decimal) := by
  have hText := readDecimal?_eq_some_iff.mp hRead
  exact ⟨read?_eq_some_iff.mpr (.signed .none (.finite hText)),
    read?_eq_some_iff.mpr (.signed .minus (.finite hText))⟩

/-- The text of a magnitude that is not above infinity is read with either sign. -/
theorem exists_read?_magnitude (layout : FloatLayout) {format : BinaryFormat}
    (hReach : format.InReach) {magnitude : Nat} (hMagnitude : magnitude ≤ format.infinity) :
    ∃ (text : List Char) (numeral : Bool → Numeral),
      (∀ pattern, pattern % format.signWeight = magnitude →
        patternText layout format pattern = (if pattern = magnitude then [] else ['-']) ++ text) ∧
      read? text = some (numeral false) ∧ read? ('-' :: text) = some (numeral true) ∧
      ∀ negative, (numeral negative).toPattern format =
        (if negative then format.signWeight else 0) + magnitude := by
  by_cases hFinite : magnitude < format.infinity
  · obtain ⟨decimal, hRead, hBinary⟩ := layout.readDecimal?_magnitudeText hReach hFinite
    obtain ⟨hPlain, hMinus⟩ := read?_of_readDecimal? hRead
    refine ⟨_, fun negative => finite negative decimal, ?_, hPlain, hMinus, ?_⟩
    · intro pattern hPattern
      simp only [patternText, hPattern, hFinite, if_true]
    · intro negative
      rw [toPattern, hBinary]
  · obtain rfl : magnitude = format.infinity := by omega
    refine ⟨['i', 'n', 'f'], infinite, ?_, rfl, rfl, ?_⟩
    · intro pattern hPattern
      simp only [patternText, hPattern, hFinite, if_true, if_false]
    · intro negative
      rw [toPattern]

/-- The text of a pattern that is not above infinity reads back as this pattern. -/
theorem read?_patternText (layout : FloatLayout) {format : BinaryFormat} (hReach : format.InReach)
    {pattern : Nat} (hPattern : pattern < 2 * format.signWeight)
    (hNumber : pattern % format.signWeight ≤ format.infinity) :
    ∃ numeral, read? (patternText layout format pattern) = some numeral ∧
      numeral.toPattern format = pattern := by
  obtain ⟨text, numeral, hText, hPlain, hMinus, hValue⟩ :=
    exists_read?_magnitude layout hReach hNumber
  rw [hText pattern rfl]
  by_cases hPositive : pattern < format.signWeight
  · refine ⟨numeral false, ?_, ?_⟩
    · rw [Nat.mod_eq_of_lt hPositive, if_pos rfl]
      exact hPlain
    · rw [hValue, Nat.mod_eq_of_lt hPositive]
      exact Nat.zero_add pattern
  · have hMagnitude : pattern % format.signWeight = pattern - format.signWeight := by
      rw [Nat.mod_eq_sub_mod (Nat.le_of_not_lt hPositive), Nat.mod_eq_of_lt (by omega)]
    refine ⟨numeral true, ?_, ?_⟩
    · rw [if_neg (by omega)]
      exact hMinus
    · rw [hValue, hMagnitude, if_pos rfl]
      omega

end Numeral

open Float.Model in
/-- The bits of a number that is not a NaN are not above those of infinity. -/
theorem toBits_le_infinity {x : Float} (hNumber : x.isNaN = false) :
    x.toBits.toNat % BinaryFormat.binary64.signWeight ≤ BinaryFormat.binary64.infinity := by
  show x.toBits.toNat % 2 ^ 63 ≤ 2047 * 2 ^ 52
  by_contra hAbove
  have hExponent : @UnpackedFloat.unpackExponent .binary64 x.toBits.toBitVec = -1#_ := by
    apply BitVec.eq_of_toNat_eq
    rw [UnpackedFloat.unpackExponent_def, BitVec.extractLsb'_toNat, Nat.shiftRight_eq_div_pow]
    show x.toBits.toNat / 2 ^ 52 % 2 ^ 11 = 2047
    omega
  have hMantissa : @UnpackedFloat.unpackMantissa .binary64 x.toBits.toBitVec ≠ 0#_ := by
    intro hZero
    have hFraction := congrArg BitVec.toNat hZero
    rw [UnpackedFloat.unpackMantissa_def, BitVec.extractLsb'_toNat] at hFraction
    have hNone : x.toBits.toNat % 2 ^ 52 = 0 := hFraction
    omega
  have hNaN : x.isNaN = true := by
    show (UnpackedFloat.unpack .binary64 x.toBits.toBitVec).isNaN = true
    rw [UnpackedFloat.unpack]
    simp only [hExponent, hMantissa, if_true, if_false]
    rfl
  rw [hNumber] at hNaN
  cases hNaN

/-- The text of a number that is not a NaN reads back as this number. -/
theorem readFloat?_floatText {x : Float} (hNumber : x.isNaN = false) :
    readFloat? (floatText x) = some x := by
  have hPattern : x.toBits.toNat < 2 * BinaryFormat.binary64.signWeight := x.toBits.toNat_lt
  obtain ⟨numeral, hRead, hBits⟩ := Numeral.read?_patternText plainLayout
    BinaryFormat.inReach_binary64 hPattern (toBits_le_infinity hNumber)
  have hFloat : floatText x = patternText plainLayout .binary64 x.toBits.toNat := rfl
  rw [readFloat?, hFloat, hRead, Option.map_some, hBits, Nat.toUInt64_eq, UInt64.ofNat_toNat,
    Float.ofBits_toBits]

/-- The number of 64 bits nearest to a numeral. -/
def Numeral.nearest (numeral : Numeral) : Float :=
  Float.ofBits (numeral.toPattern .binary64).toUInt64

/-- Exactly the texts of the grammar are read, as the nearest number. -/
theorem readFloat?_eq_some_iff {text : List Char} {x : Float} :
    readFloat? text = some x ↔ ∃ numeral, IsNumeralText text numeral ∧ numeral.nearest = x := by
  simp only [readFloat?, Option.map_eq_some_iff, Numeral.read?_eq_some_iff, Numeral.nearest]

end DbClient.Number
