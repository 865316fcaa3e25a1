import DbClient.Proofs.Zone.Reading

/-! The identity of a zone, by which it is read again. Main statement: `parse?_idBy`, by which the
zones that are read differ in their identities. -/

namespace DbClient.Zone

open Number Text

variable {text : List Char} {hours minutes : Nat} {seconds : Int} {zone : Zone}
  {display : Int → String}

/-- Hours and minutes with two digits each and a colon between them. -/
def clockText (hours minutes : Nat) : List Char :=
  paddedText 2 hours ++ ':' :: paddedText 2 minutes

/-- The identity of a zone if its offset, unless it is universal time, is displayed by `display`. -/
def idBy (display : Int → String) : Zone → String
  | named name => name
  | fixed seconds => if seconds = 0 then "UTC" else display seconds

/-- Offsets of whole minutes are displayed as a sign, the hours and the minutes. -/
structure DisplaysMinutes (display : Int → String) : Prop where
  east {hours minutes : Nat} (hHours : hours < 24) (hMinutes : minutes < 60)
    (hSome : hours + minutes ≠ 0) :
    display (3600 * hours + 60 * minutes) = .ofList ('+' :: clockText hours minutes)
  west {hours minutes : Nat} (hHours : hours < 24) (hMinutes : minutes < 60)
    (hSome : hours + minutes ≠ 0) :
    display (-(3600 * hours + 60 * minutes)) = .ofList ('-' :: clockText hours minutes)

theorem id_eq_idBy (zone : Zone) : zone.id = zone.idBy fun seconds => .ofList (offsetText seconds) :=
  rfl

/-- An offset of whole minutes is written as its sign, its hours and its minutes. -/
theorem offsetText_eq (hAbs : seconds.natAbs = 3600 * hours + 60 * minutes)
    (hMinutes : minutes < 60) :
    offsetText seconds = (if seconds < 0 then '-' else '+') :: clockText hours minutes := by
  have hRest : (3600 * hours + 60 * minutes) % 60 = 0 := by omega
  have hFirst : (3600 * hours + 60 * minutes) / 3600 = hours := by omega
  have hSecond : (3600 * hours + 60 * minutes) / 60 % 60 = minutes := by omega
  simp only [offsetText, hAbs, hRest, hFirst, hSecond, if_true, List.append_nil, clockText,
    List.cons_append]

/-- The display of offsets that this library has is one that shows minutes. -/
theorem displaysMinutes_offsetText : DisplaysMinutes fun seconds => .ofList (offsetText seconds) where
  east {hours minutes} hHours hMinutes hSome := by
    have hAbs : (3600 * hours + 60 * minutes : Int).natAbs = 3600 * hours + 60 * minutes := by omega
    rw [offsetText_eq hAbs hMinutes, if_neg (by omega)]
  west {hours minutes} hHours hMinutes hSome := by
    have hAbs : (-(3600 * hours + 60 * minutes) : Int).natAbs = 3600 * hours + 60 * minutes := by
      omega
    rw [offsetText_eq hAbs hMinutes, if_pos (by omega)]

theorem isNumberText_paddedText (width n : Nat) : IsNumberText (paddedText width n) n :=
  ⟨paddedText_ne_nil width n, areDigits_paddedText width n, natOfDigits_paddedText width n⟩

theorem isClockText_clockText (hours minutes : Nat) :
    IsClockText (clockText hours minutes) hours minutes :=
  .colon (isNumberText_paddedText 2 hours) (isNumberText_paddedText 2 minutes)

/-- However an offset was written, it is displayed in one way, which is an offset again. -/
theorem exists_displayed (hOffset : IsOffsetText text seconds) (hSome : seconds ≠ 0) :
    ∃ shown, IsOffsetText shown seconds ∧
      ∀ display, DisplaysMinutes display → display seconds = .ofList shown := by
  cases hOffset with
  | @east _ hours minutes hClock hHours hMinutes =>
      refine ⟨'+' :: clockText hours minutes,
        .east (isClockText_clockText hours minutes) hHours hMinutes, fun display hDisplay => ?_⟩
      exact hDisplay.east (by omega) (by omega) (by omega)
  | @west _ hours minutes hClock hHours hMinutes =>
      refine ⟨'-' :: clockText hours minutes,
        .west (isClockText_clockText hours minutes) hHours hMinutes, fun display hDisplay => ?_⟩
      exact hDisplay.west (by omega) (by omega) (by omega)

/-- An offset has no blanks around it. -/
theorem trim_of_isOffsetText (hOffset : IsOffsetText text seconds) : trim text = text := by
  have hPlain {body : List Char} {hours minutes : Nat} (hClock : IsClockText body hours minutes) :
      ∀ c ∈ body, isBlank c = false := by
    intro c hc
    rcases isDigit_or_colon hClock hc with hDigit | rfl
    · exact isBlank_of_isDigit hDigit
    · decide
  apply trim_of_plain
  cases hOffset with
  | east hClock => exact List.forall_mem_cons.mpr ⟨by decide, hPlain hClock⟩
  | west hClock => exact List.forall_mem_cons.mpr ⟨by decide, hPlain hClock⟩

/-- No name of universal time starts with a sign. -/
theorem not_isUniversal_of_sign {sign : Char} (hSign : sign = '+' ∨ sign = '-')
    (body : List Char) : ¬ IsUniversal (sign :: body) := by
  have hOther : ∀ name ∈ utcNames, sameName (sign :: body) name = false := by
    intro name hName
    cases name with
    | nil => exact absurd hName (by decide)
    | cons c rest =>
        refine sameName_cons_of_ne (fun hSame => ?_) body rest
        have hFirst : ∀ name ∈ utcNames, name.head?.map Char.toLower ≠ some '+' ∧
            name.head?.map Char.toLower ≠ some '-' := by decide
        rcases hSign with rfl | rfl
        · exact (hFirst _ hName).1 (congrArg some hSame.symm)
        · exact (hFirst _ hName).2 (congrArg some hSame.symm)
  rw [← any_utcNames_iff, List.any_eq_true]
  rintro ⟨name, hName, hSame⟩
  rw [hOther name hName] at hSame
  cases hSame

/-- An offset that is written is read as a zone with this offset. -/
theorem parse?_of_isOffsetText (hOffset : IsOffsetText text seconds) :
    parse? (.ofList text) = some (fixed seconds) := by
  have hTrim := trim_of_isOffsetText hOffset
  have hText : text ≠ [] ∧ ¬ IsUniversal text := by
    cases hOffset with
    | east => exact ⟨List.cons_ne_nil _ _, not_isUniversal_of_sign (.inl rfl) _⟩
    | west => exact ⟨List.cons_ne_nil _ _, not_isUniversal_of_sign (.inr rfl) _⟩
  rw [parse?_eq_some_iff, String.toList_ofList, hTrim]
  exact ⟨hText.1, .offset hText.2 (.whole text) hOffset⟩

theorem idBy_fixed (hSome : seconds ≠ 0) (display : Int → String) :
    (fixed seconds).idBy display = display seconds :=
  if_neg hSome

theorem parse?_universal : parse? "UTC" = some utc := by decide

/-- A zone that was read is read again from its identity. -/
theorem parse?_idBy (hDisplay : DisplaysMinutes display) {text : String}
    (hRead : parse? text = some zone) : parse? (zone.idBy display) = some zone := by
  obtain ⟨hSome, hDenotes⟩ := parse?_eq_some_iff.mp hRead
  cases hDenotes with
  | universal hName => exact parse?_universal
  | @offset body seconds hName hBody hOffset =>
      by_cases hSeconds : seconds = 0
      · rw [hSeconds]
        exact parse?_universal
      · obtain ⟨shown, hShown, hDisplayed⟩ := exists_displayed hOffset hSeconds
        rw [idBy_fixed hSeconds, hDisplayed display hDisplay]
        exact parse?_of_isOffsetText hShown
  | name hName hOther =>
      rw [idBy, parse?_eq_some_iff, String.toList_ofList, trim_trim]
      exact ⟨hSome, .name hName hOther⟩

/-- The identifier of a zone that was read does not depend on how offsets are displayed, as long as
minutes are shown. -/
theorem idBy_eq_id (hDisplay : DisplaysMinutes display) {text : String}
    (hRead : parse? text = some zone) : zone.idBy display = zone.id := by
  obtain ⟨-, hDenotes⟩ := parse?_eq_some_iff.mp hRead
  cases hDenotes with
  | universal hName => rfl
  | @offset body seconds hName hBody hOffset =>
      by_cases hSeconds : seconds = 0
      · rw [hSeconds]
        rfl
      · obtain ⟨shown, -, hDisplayed⟩ := exists_displayed hOffset hSeconds
        rw [id_eq_idBy, idBy_fixed hSeconds, idBy_fixed hSeconds, hDisplayed display hDisplay,
          hDisplayed _ displaysMinutes_offsetText]
  | name hName hOther => rfl

/-- As long as offsets of whole minutes are displayed as their sign, hours and minutes, every zone
that is read is read again from its identity, and only that zone has this identity. -/
theorem idBy_canonical {display : Int → String} (hDisplay : DisplaysMinutes display)
    {text : String} {zone : Zone} (hRead : parse? text = some zone) :
    zone.id = zone.idBy display ∧ parse? (zone.idBy display) = some zone ∧
    ∀ other found, parse? other = some found → found.idBy display = zone.idBy display →
      found = zone := by
  have hAgain : parse? (zone.idBy display) = some zone := parse?_idBy hDisplay hRead
  refine ⟨(idBy_eq_id hDisplay hRead).symm, hAgain, fun other found hFound hSame => ?_⟩
  have hOther : parse? (found.idBy display) = some found := parse?_idBy hDisplay hFound
  rw [hSame, hAgain] at hOther
  exact (Option.some.inj hOther).symm

/-- An offset in four digits behind a name of universal time is read again with a colon. -/
theorem idBy_canonical_prefixed :
    DisplaysMinutes (fun seconds => .ofList (offsetText seconds)) ∧
    parse? " utc-0530 " = some (fixed (-19800)) ∧ (fixed (-19800)).id = "-05:30" ∧
    parse? "-05:30" = some (fixed (-19800)) := by
  have hRead : parse? " utc-0530 " = some (fixed (-19800)) := by decide
  obtain ⟨hId, hAgain, -⟩ := idBy_canonical displaysMinutes_offsetText hRead
  rw [← hId] at hAgain
  have hText : (fixed (-19800)).id = "-05:30" := by decide
  exact ⟨displaysMinutes_offsetText, hRead, hText, hText ▸ hAgain⟩

end DbClient.Zone
