import DbClient.Number.FloatText
import DbClient.Proofs.Number.IntegerText

/-! The grammar of numerals. Main statements: `Numeral.read?_eq_some_iff`, by which exactly the
texts of the grammar are read, each as the numeral that it denotes, and
`IsNumeralText.count_tail_le` and `IsNumeralText.count_le`, which bound the signs and points in such
a text. -/

namespace DbClient.Number

open Text (sameName)

/-- Nothing, or a mark in front of a whole number: the power of ten behind the digits of a
decimal. -/
inductive IsExponentText : List Char → Int → Prop where
  | absent : IsExponentText [] 0
  | marked {mark : Char} {text : List Char} {exponent : Int} (hMark : mark = 'e' ∨ mark = 'E')
      (hText : IsIntegerText text exponent) : IsExponentText (mark :: text) exponent

/-- Digits with at most one point among them, and an exponent, which counts down by one for every
digit behind the point. -/
inductive IsDecimalText : List Char → Decimal → Prop where
  | whole {digits rest : List Char} {exponent : Int} (hDigits : AreDigits digits)
      (hSome : digits ≠ []) (hRest : IsExponentText rest exponent) :
      IsDecimalText (digits ++ rest) ⟨natOfDigits digits, exponent⟩
  | pointed {whole places rest : List Char} {exponent : Int} (hWhole : AreDigits whole)
      (hPlaces : AreDigits places) (hSome : whole ≠ [] ∨ places ≠ [])
      (hRest : IsExponentText rest exponent) :
      IsDecimalText (whole ++ '.' :: (places ++ rest))
        ⟨natOfDigits (whole ++ places), exponent - places.length⟩

/-- Digits around a point, and no exponent. -/
theorem IsDecimalText.places {whole places : List Char} (hWhole : AreDigits whole)
    (hPlaces : AreDigits places) (hSome : whole ≠ []) :
    IsDecimalText (whole ++ '.' :: places)
      ⟨natOfDigits (whole ++ places), -(places.length : Int)⟩ := by
  have hText := IsDecimalText.pointed hWhole hPlaces (.inl hSome) .absent
  rwa [List.append_nil, Int.zero_sub] at hText

/-- A word for infinity or for no number, in any case of its letters, or a decimal. -/
inductive IsMagnitudeText (negative : Bool) : List Char → Numeral → Prop where
  | infinite {text : List Char} (hName : sameName text ['i', 'n', 'f'] = true ∨
      sameName text ['i', 'n', 'f', 'i', 'n', 'i', 't', 'y'] = true) :
      IsMagnitudeText negative text (.infinite negative)
  | notANumber {text : List Char} (hName : sameName text ['n', 'a', 'n'] = true) :
      IsMagnitudeText negative text .notANumber
  | finite {text : List Char} {decimal : Decimal} (hDecimal : IsDecimalText text decimal) :
      IsMagnitudeText negative text (.finite negative decimal)

/-- An optional sign and a magnitude. -/
inductive IsNumeralText : List Char → Numeral → Prop where
  | signed {sign magnitude : List Char} {negative : Bool} {numeral : Numeral}
      (hSign : IsSign sign negative) (hMagnitude : IsMagnitudeText negative magnitude numeral) :
      IsNumeralText (sign ++ magnitude) numeral

theorem IsExponentText.exists_cons {text : List Char} {exponent : Int}
    (hText : IsExponentText text exponent) :
    text = [] ∨ ∃ mark rest, text = mark :: rest ∧ (mark = 'e' ∨ mark = 'E') := by
  cases hText with
  | absent => exact .inl rfl
  | marked hMark _ => exact .inr ⟨_, _, rfl, hMark⟩

theorem IsExponentText.endsDigits {text : List Char} {exponent : Int}
    (hText : IsExponentText text exponent) : EndsDigits text := by
  rcases hText.exists_cons with rfl | ⟨mark, rest, rfl, hMark⟩
  · exact endsDigits_nil
  · apply endsDigits_cons
    rcases hMark with rfl | rfl <;> decide

theorem IsExponentText.ne_point {text : List Char} {exponent : Int}
    (hText : IsExponentText text exponent) (places : List Char) : text ≠ '.' :: places := by
  rcases hText.exists_cons with rfl | ⟨mark, rest, rfl, hMark⟩
  · simp
  · rcases hMark with rfl | rfl <;> simp

namespace Numeral

/-- The mark of an exponent is written in either case. -/
theorem toLower_eq_mark_iff {c : Char} : c.toLower = 'e' ↔ c = 'e' ∨ c = 'E' := by
  rw [← Char.toNat_inj, ← Char.toNat_inj, ← Char.toNat_inj, Text.toNat_toLower]
  change _ = 101 ↔ c.toNat = 101 ∨ c.toNat = 69
  by_cases hUpper : c.isUpper = true
  · have hBounds := Text.isUpper_iff.mp hUpper
    rw [if_pos hUpper]
    omega
  · have hBounds := mt Text.isUpper_iff.mpr hUpper
    rw [if_neg hUpper]
    omega

theorem ite_digits_eq_some_iff {α : Type} {digits : List Char} {value result : α} :
    (if digits.isEmpty || !digits.all Char.isDigit then none else some value) = some result ↔
      digits ≠ [] ∧ AreDigits digits ∧ value = result := by
  simp [AreDigits, and_assoc]

/-- Digits behind a mark are read with the sign in front of them. -/
theorem readExponent?_of_isSign {mark : Char} (hMark : mark.toLower = 'e') {sign digits : List Char}
    {negative : Bool} (hSign : IsSign sign negative) (hDigits : AreDigits digits)
    (hSome : digits ≠ []) :
    readExponent? (mark :: (sign ++ digits)) = some (withSign negative (natOfDigits digits)) := by
  have hRead := ite_digits_eq_some_iff.mpr
    ⟨hSome, hDigits, (rfl : withSign negative (natOfDigits digits) = _)⟩
  cases hSign with
  | none =>
      obtain ⟨c, rest, rfl⟩ := List.exists_cons_of_ne_nil hSome
      have hc := hDigits c List.mem_cons_self
      have hMinus : c ≠ '-' := by
        rintro rfl
        exact absurd hc (by decide)
      have hPlus : c ≠ '+' := by
        rintro rfl
        exact absurd hc (by decide)
      simpa [readExponent?, hMark, hMinus, hPlus, withSign] using hRead
  | plus => simpa [readExponent?, hMark, withSign] using hRead
  | minus => simpa [readExponent?, hMark, withSign] using hRead

/-- Behind its mark an exponent is read as a whole number is. -/
theorem readExponent?_cons_eq_some_iff {mark : Char} {text : List Char} {exponent : Int} :
    readExponent? (mark :: text) = some exponent ↔
      mark.toLower = 'e' ∧ IsIntegerText text exponent := by
  constructor
  · intro hRead
    by_cases hMark : mark.toLower = 'e'
    · refine ⟨hMark, ?_⟩
      simp only [readExponent?, hMark, ne_eq, not_true_eq_false, if_false] at hRead
      split at hRead
      · obtain ⟨hSome, hDigits, rfl⟩ := ite_digits_eq_some_iff.mp hRead
        exact .signed .minus hDigits hSome
      · obtain ⟨hSome, hDigits, rfl⟩ := ite_digits_eq_some_iff.mp hRead
        exact .signed .plus hDigits hSome
      · obtain ⟨hSome, hDigits, rfl⟩ := ite_digits_eq_some_iff.mp hRead
        exact .signed .none hDigits hSome
    · simp [readExponent?, hMark] at hRead
  · rintro ⟨hMark, ⟨hSign, hDigits, hSome⟩⟩
    exact readExponent?_of_isSign hMark hSign hDigits hSome

theorem readExponent?_nil : readExponent? [] = some 0 := rfl

/-- An exponent is read exactly from its texts. -/
theorem readExponent?_eq_some_iff {text : List Char} {exponent : Int} :
    readExponent? text = some exponent ↔ IsExponentText text exponent := by
  cases text with
  | nil =>
      rw [readExponent?_nil]
      constructor
      · rintro ⟨⟩
        exact .absent
      · rintro ⟨⟩
        rfl
  | cons mark text =>
      rw [readExponent?_cons_eq_some_iff, toLower_eq_mark_iff]
      constructor
      · rintro ⟨hMark, hText⟩
        exact .marked hMark hText
      · rintro (_ | ⟨hMark, hText⟩)
        exact ⟨hMark, hText⟩

/-- Digits around a point, and what follows them. -/
theorem readDecimal?_point {whole places rest : List Char} (hWhole : AreDigits whole)
    (hPlaces : AreDigits places) (hRest : EndsDigits rest) (hSome : whole ≠ [] ∨ places ≠ []) :
    readDecimal? (whole ++ '.' :: (places ++ rest)) = (readExponent? rest).map fun exponent =>
      ⟨natOfDigits (whole ++ places), exponent - places.length⟩ := by
  have hPoint : EndsDigits ('.' :: (places ++ rest)) := endsDigits_cons rfl _
  have hDigits : (whole.isEmpty && places.isEmpty) = false := by
    simpa [imp_iff_not_or] using hSome
  simp only [readDecimal?, takeWhile_digits hWhole hPoint, dropWhile_digits hWhole hPoint,
    takeWhile_digits hPlaces hRest, dropWhile_digits hPlaces hRest, hDigits, Bool.false_eq_true,
    if_false]

/-- Digits without a point, and what follows them. -/
theorem readDecimal?_whole {whole rest : List Char} (hWhole : AreDigits whole)
    (hRest : EndsDigits rest) (hPoint : ∀ places, rest ≠ '.' :: places) (hSome : whole ≠ []) :
    readDecimal? (whole ++ rest) = (readExponent? rest).map fun exponent =>
      ⟨natOfDigits whole, exponent⟩ := by
  simp only [readDecimal?, takeWhile_digits hWhole hRest, dropWhile_digits hWhole hRest]
  cases rest with
  | nil => simp [hSome]
  | cons c rest =>
      simp [hSome]

theorem areDigits_takeWhile (text : List Char) : AreDigits (text.takeWhile Char.isDigit) :=
  fun _ hc => List.mem_takeWhile_imp hc

/-- What is read as a decimal are digits, perhaps a point and more digits, and an exponent. -/
theorem isDecimalText_of_readDecimal? {text : List Char} {decimal : Decimal}
    (hRead : readDecimal? text = some decimal) : IsDecimalText text decimal := by
  simp only [readDecimal?] at hRead
  split at hRead
  · rename_i rest hRest
    obtain ⟨hSome, hRead⟩ := Option.ite_none_left_eq_some.mp hRead
    obtain ⟨exponent, hExponent, rfl⟩ := Option.map_eq_some_iff.mp hRead
    have hPointed := IsDecimalText.pointed (areDigits_takeWhile text) (areDigits_takeWhile rest)
      (by simpa [imp_iff_not_or] using hSome) (readExponent?_eq_some_iff.mp hExponent)
    rwa [List.takeWhile_append_dropWhile, ← hRest, List.takeWhile_append_dropWhile] at hPointed
  · obtain ⟨hSome, hRead⟩ := Option.ite_none_left_eq_some.mp hRead
    obtain ⟨exponent, hExponent, rfl⟩ := Option.map_eq_some_iff.mp hRead
    have hWhole := IsDecimalText.whole (areDigits_takeWhile text) (by simpa using hSome)
      (readExponent?_eq_some_iff.mp hExponent)
    simpa using hWhole

/-- A decimal is read exactly from its texts. -/
theorem readDecimal?_eq_some_iff {text : List Char} {decimal : Decimal} :
    readDecimal? text = some decimal ↔ IsDecimalText text decimal := by
  refine ⟨isDecimalText_of_readDecimal?, ?_⟩
  rintro (⟨hDigits, hSome, hRest⟩ | ⟨hWhole, hPlaces, hSome, hRest⟩)
  · rw [readDecimal?_whole hDigits hRest.endsDigits hRest.ne_point hSome,
      readExponent?_eq_some_iff.mpr hRest]
    rfl
  · rw [readDecimal?_point hWhole hPlaces hRest.endsDigits hSome,
      readExponent?_eq_some_iff.mpr hRest]
    rfl

end Numeral

/-- A decimal has a digit, before or behind the point. -/
theorem IsDecimalText.exists_digit {text : List Char} {decimal : Decimal}
    (hText : IsDecimalText text decimal) : ∃ c ∈ text, c.isDigit = true := by
  rcases hText with ⟨hDigits, hSome, hRest⟩ | ⟨hWhole, hPlaces, hSome | hSome, hRest⟩
  · obtain ⟨c, hc⟩ := List.exists_mem_of_ne_nil _ hSome
    exact ⟨c, by simp [hc], hDigits c hc⟩
  · obtain ⟨c, hc⟩ := List.exists_mem_of_ne_nil _ hSome
    exact ⟨c, by simp [hc], hWhole c hc⟩
  · obtain ⟨c, hc⟩ := List.exists_mem_of_ne_nil _ hSome
    exact ⟨c, by simp [hc], hPlaces c hc⟩

/-- A decimal is no name that has no digits. -/
theorem IsDecimalText.sameName_eq_false {text name : List Char} {decimal : Decimal}
    (hText : IsDecimalText text decimal) (hName : (Text.foldCase name).any Char.isDigit = false) :
    sameName text name = false := by
  obtain ⟨c, hc, hDigit⟩ := hText.exists_digit
  by_contra hSame
  have hMem := Text.mem_of_sameName (eq_true_of_ne_false hSame) hc
    (Text.not_isUpper_of_isDigit hDigit)
  exact absurd hDigit (List.any_eq_false.mp hName c hMem)

/-- A numeral without its sign starts with none. -/
theorem IsMagnitudeText.ne_cons {negative : Bool} {text : List Char} {numeral : Numeral}
    (hText : IsMagnitudeText negative text numeral) {c : Char} (hc : c = '+' ∨ c = '-')
    (rest : List Char) : text ≠ c :: rest := by
  rintro rfl
  cases hText with
  | infinite hName => rcases hc with rfl | rfl <;> simp [Text.sameName, Text.foldCase] at hName
  | notANumber hName => rcases hc with rfl | rfl <;> simp [Text.sameName, Text.foldCase] at hName
  | finite hDecimal =>
      have hRead := Numeral.readDecimal?_eq_some_iff.mpr hDecimal
      rcases hc with rfl | rfl <;> simp [Numeral.readDecimal?] at hRead

namespace Numeral

/-- A decimal is read as a finite numeral. -/
theorem readMagnitude?_of_isDecimalText {text : List Char} {decimal : Decimal}
    (hText : IsDecimalText text decimal) (negative : Bool) :
    readMagnitude? negative text = some (finite negative decimal) := by
  have hNoName (name : List Char) (hName : (Text.foldCase name).any Char.isDigit = false) :
      sameName text name = false := hText.sameName_eq_false hName
  simp [readMagnitude?, hNoName ['i', 'n', 'f'] (by decide),
    hNoName ['i', 'n', 'f', 'i', 'n', 'i', 't', 'y'] (by decide),
    hNoName ['n', 'a', 'n'] (by decide), readDecimal?_eq_some_iff.mpr hText]

/-- A numeral without its sign is read exactly from its texts. -/
theorem readMagnitude?_eq_some_iff {negative : Bool} {text : List Char} {numeral : Numeral} :
    readMagnitude? negative text = some numeral ↔ IsMagnitudeText negative text numeral := by
  constructor
  · intro hRead
    unfold readMagnitude? at hRead
    split at hRead
    · rename_i hName
      cases hRead
      exact .infinite ((Bool.or_eq_true _ _).mp hName)
    · split at hRead
      · rename_i hName
        cases hRead
        exact .notANumber hName
      · obtain ⟨decimal, hDecimal, rfl⟩ := Option.map_eq_some_iff.mp hRead
        exact .finite (readDecimal?_eq_some_iff.mp hDecimal)
  · rintro (hName | hName | hDecimal)
    · rw [readMagnitude?, if_pos ((Bool.or_eq_true _ _).mpr hName)]
    · have hOther (name : List Char) (hNe : sameName ['n', 'a', 'n'] name = false) :
          sameName text name = false := by
        by_contra hSame
        have hTrans := Text.sameName_trans (Text.sameName_symm hName)
          (eq_true_of_ne_false hSame)
        rw [hNe] at hTrans
        cases hTrans
      simp [readMagnitude?, hName, hOther ['i', 'n', 'f'] (by decide),
        hOther ['i', 'n', 'f', 'i', 'n', 'i', 't', 'y'] (by decide)]
    · exact readMagnitude?_of_isDecimalText hDecimal negative

/-- Exactly the texts of the grammar are read, as what they denote. -/
theorem read?_eq_some_iff {text : List Char} {numeral : Numeral} :
    read? text = some numeral ↔ IsNumeralText text numeral := by
  constructor
  · intro hRead
    unfold read? at hRead
    split at hRead
    · exact .signed .minus (readMagnitude?_eq_some_iff.mp hRead)
    · exact .signed .plus (readMagnitude?_eq_some_iff.mp hRead)
    · exact .signed .none (readMagnitude?_eq_some_iff.mp hRead)
  · rintro ⟨hSign, hMagnitude⟩
    have hRead := readMagnitude?_eq_some_iff.mpr hMagnitude
    cases hSign with
    | plus => exact hRead
    | minus => exact hRead
    | none =>
        unfold read?
        split
        · rename_i hMinus
          exact absurd hMinus (hMagnitude.ne_cons (.inr rfl) _)
        · rename_i hPlus
          exact absurd hPlus (hMagnitude.ne_cons (.inl rfl) _)
        · exact hRead

end Numeral

/-- A text denotes no more than one numeral. -/
theorem IsNumeralText.unique {text : List Char} {numeral other : Numeral}
    (hText : IsNumeralText text numeral) (hOther : IsNumeralText text other) : other = numeral := by
  rw [← Numeral.read?_eq_some_iff] at hText hOther
  exact Option.some.inj (hOther.symm.trans hText)

/-! ### Signs and points -/

/-- How often a character that is no letter and no digit may stand in the place of a sign. -/
def signs (c : Char) : Nat := if c = '+' ∨ c = '-' then 1 else 0

/-- How often such a character may stand in the place of a point. -/
def points (c : Char) : Nat := if c = '.' then 1 else 0

theorem count_of_areDigits {c : Char} (hc : c.isAlphanum = false) {digits : List Char}
    (hDigits : AreDigits digits) : digits.count c = 0 := by
  apply List.count_eq_zero_of_not_mem
  intro hMem
  simp [Char.isAlphanum, hDigits c hMem] at hc

/-- A name of letters and digits has no signs and no points, in any case. -/
theorem count_of_sameName {c : Char} (hc : c.isAlphanum = false) {text name : List Char}
    (hName : (Text.foldCase name).all Char.isAlphanum = true) (hSame : sameName text name = true) :
    text.count c = 0 := by
  apply List.count_eq_zero_of_not_mem
  intro hMem
  have hAlpha : c.isAlpha = false := (Bool.or_eq_false_iff.mp hc).1
  have hUpper : c.isUpper = false := (Bool.or_eq_false_iff.mp hAlpha).1
  have hAlphanum := List.all_eq_true.mp hName c (Text.mem_of_sameName hSame hMem hUpper)
  rw [hc] at hAlphanum
  cases hAlphanum

theorem IsSign.count_le {sign : List Char} {negative : Bool} (hSign : IsSign sign negative)
    (c : Char) : sign.count c ≤ signs c := by
  cases hSign with
  | none => exact Nat.zero_le _
  | plus => by_cases hPlus : c = '+' <;> simp [signs, hPlus, eq_comm]
  | minus => by_cases hMinus : c = '-' <;> simp [signs, hMinus, eq_comm]

/-- An exponent has at most one sign and no point. -/
theorem IsExponentText.count_le {c : Char} (hc : c.isAlphanum = false) {text : List Char}
    {exponent : Int} (hText : IsExponentText text exponent) : text.count c ≤ signs c := by
  cases hText with
  | absent => exact Nat.zero_le _
  | @marked mark text exponent hMark hText =>
      obtain ⟨hSign, hDigits, -⟩ := hText
      have hNe : mark ≠ c := by
        rintro rfl
        rcases hMark with rfl | rfl <;> simp at hc
      rw [List.count_cons_of_ne hNe, List.count_append, count_of_areDigits hc hDigits]
      exact hSign.count_le c

/-- A decimal has at most one sign, in its exponent, and at most one point. -/
theorem IsDecimalText.count_le {c : Char} (hc : c.isAlphanum = false) {text : List Char}
    {decimal : Decimal} (hText : IsDecimalText text decimal) :
    text.count c ≤ signs c + points c := by
  rcases hText with ⟨hDigits, -, hRest⟩ | ⟨hWhole, hPlaces, -, hRest⟩
  · have hCount := hRest.count_le hc
    rw [List.count_append, count_of_areDigits hc hDigits]
    omega
  · have hCount := hRest.count_le hc
    have hPoint : ['.'].count c ≤ points c := by
      by_cases hPoint : c = '.' <;> simp [points, hPoint, eq_comm]
    rw [← List.singleton_append, List.count_append, List.count_append, List.count_append,
      count_of_areDigits hc hWhole, count_of_areDigits hc hPlaces]
    omega

/-- A numeral without its sign has at most one sign and one point. -/
theorem IsMagnitudeText.count_le {c : Char} (hc : c.isAlphanum = false) {negative : Bool}
    {text : List Char} {numeral : Numeral} (hText : IsMagnitudeText negative text numeral) :
    text.count c ≤ signs c + points c := by
  rcases hText with (hName | hName) | hName | hDecimal
  · simp [count_of_sameName hc (by decide) hName]
  · simp [count_of_sameName hc (by decide) hName]
  · simp [count_of_sameName hc (by decide) hName]
  · exact hDecimal.count_le hc

/-- Behind the first character there is at most one sign, that of the exponent. -/
theorem IsNumeralText.count_tail_le {c : Char} (hc : c.isAlphanum = false) {text : List Char}
    {numeral : Numeral} (hText : IsNumeralText text numeral) :
    text.tail.count c ≤ signs c + points c := by
  obtain ⟨hSign, hMagnitude⟩ := hText
  have hCount := hMagnitude.count_le hc
  cases hSign with
  | none => exact (List.tail_sublist _).count_le c |>.trans hCount
  | plus => exact hCount
  | minus => exact hCount

/-- There is a sign in front and one in the exponent, and one point, and nothing else that is no
letter and no digit. -/
theorem IsNumeralText.count_le {c : Char} (hc : c.isAlphanum = false) {text : List Char}
    {numeral : Numeral} (hText : IsNumeralText text numeral) :
    text.count c ≤ 2 * signs c + points c := by
  obtain ⟨hSign, hMagnitude⟩ := hText
  have hFront := hSign.count_le c
  have hBack := hMagnitude.count_le hc
  rw [List.count_append]
  omega

end DbClient.Number
