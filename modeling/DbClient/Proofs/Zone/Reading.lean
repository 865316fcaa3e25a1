import DbClient.Proofs.Number.Digits
import DbClient.Zone
import Mathlib.Tactic.Tauto

/-! What texts denote as time zones, without saying how they are read. Main statement:
`parse?_eq_some_iff`, by which a text is read exactly as the zone that it denotes. -/

namespace DbClient.Zone

open Number Text

variable {text body : List Char} {hours minutes : Nat} {seconds : Int} {zone : Zone}

/-- At least one digit, and the number that the digits denote. -/
structure IsNumberText (digits : List Char) (value : Nat) : Prop where
  nonempty : digits ≠ []
  areDigits : AreDigits digits
  denotes : natOfDigits digits = value

/-- Hours and minutes are written with a colon between them or with two digits each. Any number of
digits but four are hours alone. -/
inductive IsClockText : List Char → Nat → Nat → Prop where
  | colon {first second : List Char} {hours minutes : Nat} (hHours : IsNumberText first hours)
      (hMinutes : IsNumberText second minutes) :
      IsClockText (first ++ ':' :: second) hours minutes
  | packed {first second : List Char} {hours minutes : Nat} (hHours : IsNumberText first hours)
      (hMinutes : IsNumberText second minutes) (hFirst : first.length = 2)
      (hSecond : second.length = 2) : IsClockText (first ++ second) hours minutes
  | alone {digits : List Char} {hours : Nat} (hHours : IsNumberText digits hours)
      (hLength : digits.length ≠ 4) : IsClockText digits hours 0

/-- An offset is a sign and a clock text of at most eighteen hours and fifty-nine minutes. -/
inductive IsOffsetText : List Char → Int → Prop where
  | east {body : List Char} {hours minutes : Nat} (hClock : IsClockText body hours minutes)
      (hHours : hours ≤ 18) (hMinutes : minutes ≤ 59) :
      IsOffsetText ('+' :: body) (3600 * hours + 60 * minutes)
  | west {body : List Char} {hours minutes : Nat} (hClock : IsClockText body hours minutes)
      (hHours : hours ≤ 18) (hMinutes : minutes ≤ 59) :
      IsOffsetText ('-' :: body) (-(3600 * hours + 60 * minutes))

/-- The two names that may stand in front of an offset. -/
def IsUtcPrefix (name : List Char) : Prop :=
  sameName name ['U', 'T', 'C'] = true ∨ sameName name ['G', 'M', 'T'] = true

/-- What is left of a text without a leading name of universal time. -/
inductive IsBehindUtc : List Char → List Char → Prop where
  | whole (text : List Char) : IsBehindUtc text text
  | behind {name : List Char} (hName : IsUtcPrefix name) (body : List Char) :
      IsBehindUtc (name ++ body) body

/-- The names of universal time. The case of their letters does not matter. -/
def IsUniversal (text : List Char) : Prop :=
  ∃ name ∈ ["UTC", "GMT", "UCT", "Z", "Zulu", "Etc/UTC", "Etc/GMT"],
    sameName text name.toList = true

/-- A text is a name of universal time, or an offset, or any other name. -/
inductive Denotes (text : List Char) : Zone → Prop where
  | universal (hName : IsUniversal text) : Denotes text utc
  | offset {body : List Char} {seconds : Int} (hName : ¬ IsUniversal text)
      (hBody : IsBehindUtc text body) (hOffset : IsOffsetText body seconds) :
      Denotes text (fixed seconds)
  | name (hName : ¬ IsUniversal text)
      (hOther : ∀ body seconds, IsBehindUtc text body → ¬ IsOffsetText body seconds) :
      Denotes text (named (.ofList text))

theorem colon_not_mem {digits : List Char} (hDigits : AreDigits digits) : ':' ∉ digits :=
  fun hMem => absurd (hDigits ':' hMem) (by decide)

/-- A clock is split at its colon. -/
theorem splitOffset_colon {first : List Char} (hFirst : ':' ∉ first) (second : List Char) :
    splitOffset (first ++ ':' :: second) = (first, second) := by
  have hStay : ∀ c ∈ first, decide (c ≠ ':') = true :=
    fun c hc => decide_eq_true (ne_of_mem_of_not_mem hc hFirst)
  rw [splitOffset, if_pos (by simp), List.takeWhile_append_of_pos hStay,
    List.dropWhile_append_of_pos hStay]
  simp

/-- A text is a clock exactly if both its parts are numbers. -/
theorem isClockText_iff : IsClockText body hours minutes ↔
    IsNumberText (splitOffset body).1 hours ∧ IsNumberText (splitOffset body).2 minutes := by
  constructor
  · intro hClock
    cases hClock with
    | colon hHours hMinutes =>
        rw [splitOffset_colon (colon_not_mem hHours.areDigits)]
        exact ⟨hHours, hMinutes⟩
    | @packed first second _ _ hHours hMinutes hFirst hSecond =>
        have hColon := colon_not_mem (areDigits_append hHours.areDigits hMinutes.areDigits)
        have hLength : (first ++ second).length = 4 := by simp [hFirst, hSecond]
        have hSplit : (first ++ second).splitAt 2 = (first, second) := by
          rw [← hFirst]
          simp
        rw [splitOffset, if_neg hColon, if_pos hLength, hSplit]
        exact ⟨hHours, hMinutes⟩
    | alone hHours hLength =>
        rw [splitOffset, if_neg (colon_not_mem hHours.areDigits), if_neg hLength]
        exact ⟨hHours, ⟨List.cons_ne_nil _ _, areDigits_zeros 1, rfl⟩⟩
  · rintro ⟨hHours, hMinutes⟩
    by_cases hColon : ':' ∈ body
    · obtain ⟨first, second, rfl, hFirst⟩ := List.eq_append_cons_of_mem hColon
      rw [splitOffset_colon hFirst] at hHours hMinutes
      exact .colon hHours hMinutes
    · rw [splitOffset, if_neg hColon] at hHours hMinutes
      by_cases hLength : body.length = 4
      · rw [if_pos hLength, List.splitAt_eq] at hHours hMinutes
        have hClock := IsClockText.packed hHours hMinutes (by simp [hLength]) (by simp [hLength])
        rwa [List.take_append_drop] at hClock
      · rw [if_neg hLength] at hHours hMinutes
        obtain rfl : 0 = minutes := hMinutes.denotes
        exact .alone hHours hLength

/-- The text of a clock is made of digits and a colon. -/
theorem isDigit_or_colon (hClock : IsClockText body hours minutes) {c : Char} (hc : c ∈ body) :
    c.isDigit = true ∨ c = ':' := by
  cases hClock with
  | colon hHours hMinutes =>
      rcases List.mem_append.mp hc with hFirst | hRest
      · exact .inl (hHours.areDigits c hFirst)
      · rcases List.mem_cons.mp hRest with rfl | hSecond
        · exact .inr rfl
        · exact .inl (hMinutes.areDigits c hSecond)
  | packed hHours hMinutes hFirst hSecond =>
      exact .inl (areDigits_append hHours.areDigits hMinutes.areDigits c hc)
  | alone hHours hLength => exact .inl (hHours.areDigits c hc)

/-- A number is some digits. -/
theorem isNumberText_iff {digits : List Char} {value : Nat} : IsNumberText digits value ↔
    (digits.isEmpty = false ∧ digits.all Char.isDigit = true) ∧ natOfDigits digits = value := by
  constructor
  · rintro ⟨hSome, hDigits, hValue⟩
    exact ⟨⟨by simpa using hSome, List.all_eq_true.mpr hDigits⟩, hValue⟩
  · rintro ⟨⟨hSome, hDigits⟩, hValue⟩
    exact ⟨by simpa using hSome, List.all_eq_true.mp hDigits, hValue⟩

/-- Behind a sign, a clock text within range is read. -/
theorem readOffset?_of_isClockText {sign : Char} (hSign : sign = '+' ∨ sign = '-')
    (hClock : IsClockText body hours minutes) :
    readOffset? (sign :: body) = if 18 < hours ∨ 59 < minutes then none
      else some (if sign = '-' then -(3600 * hours + 60 * minutes : Int)
        else 3600 * hours + 60 * minutes) := by
  obtain ⟨hHours, hMinutes⟩ := isClockText_iff.mp hClock
  obtain ⟨⟨hFirst, hFirstDigits⟩, hFirstValue⟩ := isNumberText_iff.mp hHours
  obtain ⟨⟨hSecond, hSecondDigits⟩, hSecondValue⟩ := isNumberText_iff.mp hMinutes
  rw [readOffset?, if_neg (by tauto)]
  simp [hFirst, hFirstDigits, hFirstValue, hSecond, hSecondDigits, hSecondValue]

/-- What is no clock is no offset. -/
theorem readOffset?_of_not_isClockText {sign : Char}
    (hClock : ∀ hours minutes, ¬ IsClockText body hours minutes) :
    readOffset? (sign :: body) = none := by
  simp only [isClockText_iff, isNumberText_iff] at hClock
  by_contra hRead
  simp only [readOffset?] at hRead
  split at hRead
  · exact hRead rfl
  · split at hRead
    · exact hRead rfl
    · next hTexts =>
        simp only [Bool.or_eq_true, Bool.not_eq_true', not_or, Bool.not_eq_true,
          Bool.not_eq_false] at hTexts
        obtain ⟨⟨⟨hFirst, hSecond⟩, hFirstDigits⟩, hSecondDigits⟩ := hTexts
        exact hClock _ _ ⟨⟨⟨hFirst, hFirstDigits⟩, rfl⟩, ⟨hSecond, hSecondDigits⟩, rfl⟩

/-- A text is read as an offset exactly if it is one. -/
theorem readOffset?_eq_some_iff : readOffset? text = some seconds ↔ IsOffsetText text seconds := by
  constructor
  · intro hRead
    cases text with
    | nil => cases hRead
    | cons sign body =>
        have hSign : sign = '+' ∨ sign = '-' := by
          by_contra hSign
          rw [readOffset?, if_pos (by tauto)] at hRead
          cases hRead
        rcases Classical.em (∃ hours minutes, IsClockText body hours minutes) with
          ⟨hours, minutes, hClock⟩ | hNone
        · rw [readOffset?_of_isClockText hSign hClock] at hRead
          split at hRead
          · cases hRead
          · cases hRead
            rcases hSign with rfl | rfl
            · exact .east hClock (by omega) (by omega)
            · exact .west hClock (by omega) (by omega)
        · rw [readOffset?_of_not_isClockText fun hours minutes hClock =>
            hNone ⟨hours, minutes, hClock⟩] at hRead
          cases hRead
  · intro hOffset
    cases hOffset with
    | east hClock hHours hMinutes =>
        rw [readOffset?_of_isClockText (.inl rfl) hClock, if_neg (by omega), if_neg (by decide)]
    | west hClock hHours hMinutes =>
        rw [readOffset?_of_isClockText (.inr rfl) hClock, if_neg (by omega), if_pos rfl]

/-- Dropping the name of the universal time leaves what is behind it. -/
theorem isBehindUtc_dropUtc (text : List Char) : IsBehindUtc text (dropUtc text) := by
  unfold dropUtc
  cases hUtc : dropName? ['U', 'T', 'C'] text with
  | some rest =>
      obtain ⟨name, hName, rfl⟩ := dropName?_eq_some_iff.mp hUtc
      exact .behind (.inl hName) rest
  | none =>
      cases hGmt : dropName? ['G', 'M', 'T'] text with
      | some rest =>
          obtain ⟨name, hName, rfl⟩ := dropName?_eq_some_iff.mp hGmt
          exact .behind (.inr hName) rest
      | none => exact .whole text

/-- The name of the universal time is dropped in any case. -/
theorem dropUtc_append {name : List Char} (hName : IsUtcPrefix name) (body : List Char) :
    dropUtc (name ++ body) = body := by
  have hDrop {word : List Char} (hSame : sameName name word = true) :
      dropName? word (name ++ body) = some body :=
    dropName?_eq_some_iff.mpr ⟨name, hSame, rfl⟩
  rcases hName with hName | hName
  · rw [dropUtc, hDrop hName]
    rfl
  · rw [dropUtc, hDrop hName]
    cases hOther : dropName? ['U', 'T', 'C'] (name ++ body) with
    | none => rfl
    | some rest =>
        -- Both names take three characters, so it is the same rest.
        obtain ⟨other, hSame, hText⟩ := dropName?_eq_some_iff.mp hOther
        have hLength : other.length = name.length :=
          (length_of_sameName hSame).trans (length_of_sameName hName).symm
        exact List.append_inj_right hText hLength

/-- No name of universal time stands in front of a sign. -/
theorem dropUtc_of_sign {sign : Char} (hSign : sign = '+' ∨ sign = '-') (body : List Char) :
    dropUtc (sign :: body) = sign :: body := by
  have hUtc : sign.toLower ≠ 'U'.toLower := by rcases hSign with rfl | rfl <;> decide
  have hGmt : sign.toLower ≠ 'G'.toLower := by rcases hSign with rfl | rfl <;> decide
  rw [dropUtc, dropName?_cons_of_ne hUtc, dropName?_cons_of_ne hGmt]
  rfl

/-- The offset behind an optional name of universal time is the one that is read. -/
theorem exists_isOffsetText_iff : (∃ body, IsBehindUtc text body ∧ IsOffsetText body seconds) ↔
    readOffset? (dropUtc text) = some seconds := by
  rw [readOffset?_eq_some_iff]
  constructor
  · rintro ⟨body, hBody, hOffset⟩
    cases hBody with
    | whole =>
        cases hOffset with
        | east hClock hHours hMinutes =>
            rw [dropUtc_of_sign (.inl rfl)]
            exact .east hClock hHours hMinutes
        | west hClock hHours hMinutes =>
            rw [dropUtc_of_sign (.inr rfl)]
            exact .west hClock hHours hMinutes
    | behind hName => rwa [dropUtc_append hName]
  · exact fun hOffset => ⟨dropUtc text, isBehindUtc_dropUtc text, hOffset⟩

theorem any_utcNames_iff : utcNames.any (sameName text) = true ↔ IsUniversal text := by
  simp [utcNames, IsUniversal]

/-- Only blank texts are no zone. -/
theorem parse?_eq_none_iff {text : String} : parse? text = none ↔ trim text.toList = [] := by
  rw [parse?]
  split
  · next hEmpty => simpa using hEmpty
  · next hSome =>
      have hSome : trim text.toList ≠ [] := by simpa using hSome
      split
      · simp [hSome]
      · split <;> simp [hSome]

/-- Zones are read as what the text between blanks denotes. -/
theorem parse?_eq_some_iff {text : String} : parse? text = some zone ↔
    trim text.toList ≠ [] ∧ Denotes (trim text.toList) zone := by
  rw [parse?]
  generalize trim text.toList = name
  simp only [List.isEmpty_iff]
  by_cases hEmpty : name = []
  · simp [hEmpty]
  rw [if_neg hEmpty]
  constructor
  · intro hRead
    refine ⟨hEmpty, ?_⟩
    split at hRead
    · next hName =>
        cases hRead
        exact .universal (any_utcNames_iff.mp hName)
    · next hName =>
        rw [any_utcNames_iff] at hName
        split at hRead
        · next seconds hOffset =>
            obtain ⟨body, hBody, hOffset⟩ := exists_isOffsetText_iff.mpr hOffset
            cases hRead
            exact .offset hName hBody hOffset
        · next hNone =>
            cases hRead
            refine .name hName fun body seconds hBody hOffset => ?_
            rw [exists_isOffsetText_iff.mp ⟨body, hBody, hOffset⟩] at hNone
            cases hNone
  · rintro ⟨-, hDenotes⟩
    cases hDenotes with
    | universal hName => rw [if_pos (any_utcNames_iff.mpr hName)]
    | offset hName hBody hOffset =>
        rw [if_neg (mt any_utcNames_iff.mp hName),
          exists_isOffsetText_iff.mp ⟨_, hBody, hOffset⟩]
    | name hName hOther =>
        rw [if_neg (mt any_utcNames_iff.mp hName)]
        cases hRead : readOffset? (dropUtc name) with
        | none => rfl
        | some seconds =>
            obtain ⟨body, hBody, hOffset⟩ := exists_isOffsetText_iff.mpr hRead
            exact absurd hOffset (hOther body seconds hBody)

end DbClient.Zone
