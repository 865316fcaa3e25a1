import DbClient.Proofs.Number.FloatText
import DbClient.Scalar.Basic
import DbClient.Text.Blank

/-! Which scalars denote numbers. Main statement: `Scalar.not_isNumeralText`, by which flags,
identifiers, addresses, dates and times have no text of a number, whatever their value is. -/

namespace DbClient

open Number Text

/-- How the scalars of a kind serve as numbers. -/
inductive Usage where
  /-- By their own value. -/
  | number
  /-- By what their text denotes, if it is the text of a number. -/
  | text
  | never
  deriving DecidableEq

namespace Scalar

def usage : Scalar → Usage
  | flag _ => .never
  | char _ => .text
  | byte _ => .number
  | short _ => .number
  | int _ => .number
  | long _ => .number
  | bigInteger _ => .number
  | float _ => .number
  | double _ => .number
  | decimal .. => .number
  | text _ => .text
  | uuid _ => .never
  | constant _ => .text
  | ipv4 _ => .never
  | ipv6 _ => .never
  | date _ => .never
  | time _ => .never
  | dateTime .. => .never

/-- The number that a scalar denotes. Blanks around a text do not count. -/
def HasNumber (scalar : Scalar) (x : Float) : Prop :=
  match scalar.usage with
  | .number => scalar.float? = some x
  | .text => ∃ numeral, IsNumeralText (trim scalar.chars) numeral ∧ numeral.nearest = x
  | .never => False

end Scalar

/-! ### Texts that are never numbers -/

/-- A text with more signs or points than a numeral may have is none. -/
theorem not_isNumeralText_of_count {c : Char} (hAlphanum : c.isAlphanum = false)
    (hBlank : isBlank c = false) {text : List Char}
    (hCount : 2 * signs c + points c < text.count c) (numeral : Numeral) :
    ¬ IsNumeralText (trim text) numeral := by
  intro hText
  have hBound := hText.count_le hAlphanum
  rw [count_trim hBlank] at hBound
  exact Nat.not_lt.mpr hBound hCount

/-- Between pieces there are separators, one less than there are pieces. -/
theorem length_le_count_intercalate (separator : Char) (pieces : List (List Char)) :
    pieces.length ≤ ([separator].intercalate pieces).count separator + 1 := by
  induction pieces with
  | nil => exact Nat.zero_le _
  | cons piece rest ih =>
      cases rest with
      | nil => exact Nat.le_add_left 1 _
      | cons next others =>
          rw [List.intercalate_cons_cons, List.count_append, List.count_append,
            List.count_singleton_self, List.length_cons]
          omega

/-- An identifier has four hyphens. -/
theorem Uuid.count_toText (uuid : Uuid) : 4 ≤ uuid.toText.count '-' := by
  have hCount := length_le_count_intercalate '-'
    ((group groupSizes uuid.bytes.toList).map (·.flatMap hexPair))
  exact Nat.le_of_succ_le_succ hCount

theorem Ipv4Address.count_toText (address : Ipv4Address) : 3 ≤ address.toText.count '.' := by
  have hCount := length_le_count_intercalate '.'
    (address.octets.toList.map fun octet => natText octet.toNat)
  rw [List.length_map, Vector.length_toList] at hCount
  exact Nat.le_of_succ_le_succ hCount

/-- A longer address is written with a colon. -/
theorem Ipv6Address.count_toText (address : Ipv6Address) : 0 < address.toText.count ':' := by
  unfold toText
  split
  · simp
  · have hCount := length_le_count_intercalate ':'
      (address.groups.toList.map fun group => hexDigits group.toNat)
    rw [List.length_map, Vector.length_toList] at hCount
    dsimp only
    split
    · exact Nat.lt_of_lt_of_le (by decide) (Nat.le_of_succ_le_succ hCount)
    · simp

theorem Time.count_toText (time : Time) : 0 < time.toText.count ':' := by
  simp [toText]

theorem Date.isBlank_of_mem {date : Date} {c : Char} (hc : c ∈ date.toText) :
    isBlank c = false := by
  have hDigits (width n : Nat) : c ∈ paddedText width n → isBlank c = false :=
    fun hMem => isBlank_of_isDigit (areDigits_paddedText width n c hMem)
  have hYear : c ∈ yearText date.year → isBlank c = false := by
    intro hMem
    simp only [yearText] at hMem
    split at hMem
    · rcases List.mem_cons.mp hMem with rfl | hMem
      · decide
      · exact hDigits _ _ hMem
    · split at hMem
      · rcases List.mem_cons.mp hMem with rfl | hMem
        · decide
        · exact hDigits _ _ hMem
      · exact hDigits _ _ hMem
  simp only [toText, List.mem_append, List.mem_cons] at hc
  rcases hc with ((hc | rfl | hc) | rfl | hc)
  · exact hYear hc
  · decide
  · exact hDigits _ _ hc
  · decide
  · exact hDigits _ _ hc

/-- Two hyphens stand behind the first character of a date, which may be a hyphen as well. -/
theorem Date.count_tail (date : Date) : 2 ≤ date.toText.tail.count '-' := by
  have hYear : yearText date.year ≠ [] := by
    simp only [yearText]
    split
    · simp
    · split
      · simp
      · exact paddedText_ne_nil _ _
  obtain ⟨c, rest, hText⟩ := List.exists_cons_of_ne_nil hYear
  rw [toText, hText]
  simp only [List.cons_append, List.tail_cons, List.count_append, List.count_cons_self]
  omega

/-- A date is no numeral, since it has two hyphens behind a sign that it may start with. -/
theorem Date.not_isNumeralText (date : Date) (numeral : Numeral) :
    ¬ IsNumeralText (trim date.toText) numeral := by
  intro hText
  rw [trim_of_plain fun c hc => isBlank_of_mem hc] at hText
  have hBound := hText.count_tail_le (c := '-') (by decide)
  exact Nat.not_lt.mpr hBound (Nat.lt_of_lt_of_le (by decide) date.count_tail)

/-- Scalars that never serve as numbers have no text of a number. In an identifier there are too
many hyphens, and in an address of four octets too many points; a colon stands in all other
addresses and in times. A date has one hyphen more than a number without letters. -/
theorem Scalar.not_isNumeralText {scalar : Scalar} (hUsage : scalar.usage = .never)
    (numeral : Numeral) : ¬ IsNumeralText (trim scalar.chars) numeral := by
  cases scalar with
  | flag value =>
      rw [← Numeral.read?_eq_some_iff]
      cases value with
      | false =>
          have hRead : Numeral.read? (trim (flag false).chars) = none := by decide
          simp [hRead]
      | true =>
          have hRead : Numeral.read? (trim (flag true).chars) = none := by decide
          simp [hRead]
  | uuid value =>
      exact not_isNumeralText_of_count (c := '-') (by decide) (by decide)
        (Nat.lt_of_lt_of_le (by decide) value.count_toText) numeral
  | ipv4 value =>
      exact not_isNumeralText_of_count (c := '.') (by decide) (by decide)
        (Nat.lt_of_lt_of_le (by decide) value.count_toText) numeral
  | ipv6 value =>
      exact not_isNumeralText_of_count (c := ':') (by decide) (by decide) value.count_toText numeral
  | date value => exact value.not_isNumeralText numeral
  | time value =>
      exact not_isNumeralText_of_count (c := ':') (by decide) (by decide) value.count_toText numeral
  | dateTime day clock =>
      have hCount : 0 < (dateTime day clock).chars.count ':' := by
        rw [chars, List.count_append, List.count_cons_of_ne (by decide)]
        exact Nat.lt_of_lt_of_le clock.count_toText (Nat.le_add_left _ _)
      exact not_isNumeralText_of_count (c := ':') (by decide) (by decide) hCount numeral
  | _ => cases hUsage

/-- Exactly the scalars that serve as numbers by themselves have a floating-point value. -/
theorem Scalar.isSome_float?_iff {scalar : Scalar} :
    scalar.float?.isSome = true ↔ scalar.usage = .number := by
  cases scalar <;> simp [float?, usage]

theorem Scalar.float?_eq_none {scalar : Scalar} (hUsage : scalar.usage ≠ .number) :
    scalar.float? = none := by
  rw [← Option.not_isSome_iff_eq_none, isSome_float?_iff]
  exact hUsage

theorem Scalar.exists_hasNumber {scalar : Scalar} (hUsage : scalar.usage = .number) :
    ∃ x, scalar.HasNumber x := by
  simp only [HasNumber, hUsage]
  exact Option.isSome_iff_exists.mp (isSome_float?_iff.mpr hUsage)

theorem Scalar.not_hasNumber {scalar : Scalar} (hUsage : scalar.usage = .never) (x : Float) :
    ¬ scalar.HasNumber x := by
  simp [HasNumber, hUsage]

/-- To try the text of whatever has no floating-point value is to go by the kinds. -/
theorem Scalar.or_readFloat?_eq_some_iff {scalar : Scalar} {x : Float} :
    scalar.float?.or (readFloat? (trim scalar.chars)) = some x ↔ scalar.HasNumber x := by
  rw [HasNumber]
  cases hUsage : scalar.usage with
  | number =>
      obtain ⟨y, hFloat⟩ := Option.isSome_iff_exists.mp (isSome_float?_iff.mpr hUsage)
      rw [hFloat, Option.some_or]
  | text =>
      rw [float?_eq_none (by simp [hUsage]), Option.none_or]
      exact readFloat?_eq_some_iff
  | never =>
      rw [float?_eq_none (by simp [hUsage]), Option.none_or, readFloat?_eq_some_iff, iff_false]
      rintro ⟨numeral, hText, -⟩
      exact not_isNumeralText hUsage numeral hText

end DbClient
