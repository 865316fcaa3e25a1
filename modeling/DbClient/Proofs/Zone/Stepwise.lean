import DbClient.Proofs.Number.IntegerText
import DbClient.Proofs.Zone.Reading
import DbClient.Text.Bytes

/-! Zones read in the steps of a machine, which cuts text behind bytes and computes in words of 32
bits. Main statement: `parse?_classifies`, by which no text stops such a machine, and it finds the
zone that the text denotes. -/

namespace DbClient.Zone

open Number Text

/-- Why a machine stops: a cut inside of a character or behind the end, or a number that does not
fit into a word. -/
inductive Crash where
  | cut
  | overflow
  deriving DecidableEq, Repr

/-- The text in front of a cut and behind it. -/
def cutAt (count : Nat) (text : List Char) : Except Crash (List Char × List Char) :=
  match cutBytes? count text with
  | some parts => .ok parts
  | none => .error .cut

/-- A number that has to fit into a word. -/
def word (n : Int) : Except Crash Int :=
  if Int32.minValue.toInt ≤ n ∧ n ≤ Int32.maxValue.toInt then .ok n else .error .overflow

/-- The text behind a leading name, if it is cut where the name ends. -/
def stripName (name text : List Char) : Except Crash (Option (List Char)) :=
  match cutBytes? (byteSize name) text with
  | none => .ok none
  | some (front, _) =>
    if sameName front name then (cutAt (byteSize name) text).map fun parts => some parts.2
    else .ok none

/-- The text behind a leading `UTC` or `GMT`, or all of it. -/
def stripUtc (text : List Char) : Except Crash (List Char) := do
  match ← stripName ['U', 'T', 'C'] text with
  | some rest => return rest
  | none =>
    match ← stripName ['G', 'M', 'T'] text with
    | some rest => return rest
    | none => return text

/-- Hours and minutes of an offset. Four bytes are cut in the middle. -/
def splitClock (body : List Char) : Except Crash (List Char × List Char) :=
  if ':' ∈ body then .ok (body.takeWhile (· ≠ ':'), (body.dropWhile (· ≠ ':')).drop 1)
  else if byteSize body = 4 then cutAt 2 body
  else .ok (body, ['0'])

def secondsOf (sign hours minutes : Int) : Except Crash Int := do
  let inHours ← word (hours * 3600)
  let inMinutes ← word (minutes * 60)
  let total ← word (inHours + inMinutes)
  word (sign * total)

def readWord (digits : List Char) : Except IntegerFault Int :=
  readInteger Int32.minValue.toInt Int32.maxValue.toInt digits

/-- The offset of hours and minutes, if they are numbers within range and the offset is one that
the calendar `accepts`. -/
def offsetOf (accepts : Int → Bool) (sign : Int) (hours minutes : List Char) :
    Except Crash (Option Int) :=
  if hours.isEmpty || !(hours ++ minutes).all Char.isDigit then .ok none
  else
    match readWord hours, readWord minutes with
    | .ok h, .ok m =>
      if 18 < h ∨ 59 < m then .ok none
      else (secondsOf sign h m).map fun seconds => if accepts seconds then some seconds else none
    | _, _ => .ok none

def readOffsetStepwise (accepts : Int → Bool) : List Char → Except Crash (Option Int)
  | [] => .ok none
  | sign :: rest =>
    if sign ≠ '+' ∧ sign ≠ '-' then .ok none
    else do
      let (_, body) ← cutAt 1 (sign :: rest)
      if body.any fun c => 128 ≤ c.toNat then return none
      else
        let (hours, minutes) ← splitClock body
        offsetOf accepts (if sign = '-' then -1 else 1) hours minutes

/-- Reads a zone as `parse?` does, step by step. -/
def parseStepwise (accepts : Int → Bool) (text : String) : Except Crash (Option Zone) :=
  let name := trim text.toList
  if name.isEmpty then .ok none
  else if utcNames.any (sameName name) then .ok (some utc)
  else do
    let rest ← stripUtc name
    match ← readOffsetStepwise accepts rest with
    | some seconds => return some (fixed seconds)
    | none => return some (named (.ofList name))

/-- A calendar accepts all offsets of less than a day. -/
def AcceptsWithinDay (accepts : Int → Bool) : Prop :=
  ∀ seconds : Int, -86400 < seconds → seconds < 86400 → accepts seconds = true

variable {accepts : Int → Bool} {text first second body : List Char} {hours minutes value : Nat}

/-- A text is cut behind a piece in front of it, never inside of a character. -/
theorem cutAt_append (front back : List Char) :
    cutAt (byteSize front) (front ++ back) = .ok (front, back) := by
  rw [cutAt, cutBytes?_eq_some_iff.mpr ⟨rfl, rfl⟩]

theorem word_eq_ok {n : Int} (hLow : -2147483648 ≤ n) (hHigh : n ≤ 2147483647) : word n = .ok n :=
  if_pos ⟨hLow, hHigh⟩

/-- A name ends where a character does, since the case of letters does not change their bytes. -/
theorem stripName_eq (name : List Char) : stripName name text = .ok (dropName? name text) := by
  have hCut {front back : List Char} (hSame : sameName front name = true)
      (hText : front ++ back = text) : cutBytes? (byteSize name) text = some (front, back) :=
    cutBytes?_eq_some_iff.mpr ⟨byteSize_of_sameName hSame, hText⟩
  rw [stripName]
  cases hDrop : dropName? name text with
  | some rest =>
      obtain ⟨front, hSame, hText⟩ := dropName?_eq_some_iff.mp hDrop
      simp [cutAt, hCut hSame hText, hSame, Except.map]
  | none =>
      cases hFront : cutBytes? (byteSize name) text with
      | none => rfl
      | some parts =>
          have hOther : sameName parts.1 name ≠ true := by
            intro hSame
            have hText := (cutBytes?_eq_some_iff.mp hFront).2
            rw [dropName?_eq_some_iff.mpr ⟨parts.1, hSame, hText⟩] at hDrop
            cases hDrop
          simp [hOther]

/-- The machine drops the name of the universal time without a crash. -/
theorem stripUtc_eq : stripUtc text = .ok (dropUtc text) := by
  rw [stripUtc, stripName_eq, stripName_eq, dropUtc]
  cases dropName? ['U', 'T', 'C'] text with
  | some rest => rfl
  | none => cases dropName? ['G', 'M', 'T'] text <;> rfl

/-- The seconds of an offset within a day fit into a word. -/
theorem secondsOf_eq {sign hours minutes : Int} (hSign : sign = 1 ∨ sign = -1)
    (hHours : 0 ≤ hours ∧ hours ≤ 18) (hMinutes : 0 ≤ minutes ∧ minutes ≤ 59) :
    secondsOf sign hours minutes = .ok (sign * (hours * 3600 + minutes * 60)) := by
  have hInHours : word (hours * 3600) = .ok (hours * 3600) := word_eq_ok (by omega) (by omega)
  have hInMinutes : word (minutes * 60) = .ok (minutes * 60) := word_eq_ok (by omega) (by omega)
  have hTotal : word (hours * 3600 + minutes * 60) = .ok (hours * 3600 + minutes * 60) :=
    word_eq_ok (by omega) (by omega)
  have hSigned : word (sign * (hours * 3600 + minutes * 60)) =
      .ok (sign * (hours * 3600 + minutes * 60)) := by
    rcases hSign with rfl | rfl <;> exact word_eq_ok (by omega) (by omega)
  simp only [secondsOf, hInHours, hInMinutes, hTotal, hSigned, bind, Except.bind]

/-- Numbers up to 59 are read. -/
theorem readWord_of_isNumberText {digits : List Char} (hNumber : IsNumberText digits value)
    (hRange : value ≤ 59) : readWord digits = .ok value := by
  obtain ⟨hSome, hDigits, rfl⟩ := hNumber
  have hValue : withSign false (Nat.ofDigitChars 10 digits 0) = natOfDigits digits := rfl
  have hLow : Int32.minValue.toInt = -2147483648 := by decide
  have hHigh : Int32.maxValue.toInt = 2147483647 := by decide
  rw [readWord, readInteger_digits _ _ hDigits hSome,
    readDigits_eq_ok hDigits (by rw [hValue]; omega) (by rw [hValue]; omega), hValue]

/-- A number that is read is the one that the text denotes. -/
theorem eq_of_readWord {digits : List Char} (hNumber : IsNumberText digits value) {n : Int}
    (hRead : readWord digits = .ok n) : n = value := by
  obtain ⟨hSome, hDigits, rfl⟩ := hNumber
  rw [readWord, readInteger_digits _ _ hDigits hSome] at hRead
  exact eq_of_readDigits hRead

/-- Numbers beyond the range are refused, whether or not they fit into a word. -/
theorem offsetOf_of_isNumberText (hAccepts : AcceptsWithinDay accepts)
    (hHours : IsNumberText first hours) (hMinutes : IsNumberText second minutes) {sign : Int}
    (hSign : sign = 1 ∨ sign = -1) :
    offsetOf accepts sign first second = .ok (if 18 < hours ∨ 59 < minutes then none
      else some (sign * (hours * 3600 + minutes * 60))) := by
  have hTest : ¬ (first.isEmpty || !(first ++ second).all Char.isDigit) = true := by
    have hDigits := List.all_eq_true.mpr (areDigits_append hHours.areDigits hMinutes.areDigits)
    simp [hHours.nonempty, hDigits]
  rw [offsetOf, if_neg hTest]
  by_cases hRange : 18 < hours ∨ 59 < minutes
  · rw [if_pos hRange]
    split
    · next h m hFirst hSecond =>
        rw [eq_of_readWord hHours hFirst, eq_of_readWord hMinutes hSecond, if_pos (by omega)]
    · rfl
  · rw [if_neg hRange, readWord_of_isNumberText hHours (by omega),
      readWord_of_isNumberText hMinutes (by omega)]
    have hSeconds : secondsOf sign hours minutes = .ok (sign * (hours * 3600 + minutes * 60)) :=
      secondsOf_eq hSign (by omega) (by omega)
    have hOffset : accepts (sign * (hours * 3600 + minutes * 60)) = true := by
      rcases hSign with rfl | rfl <;> exact hAccepts _ (by omega) (by omega)
    dsimp only
    rw [if_neg (by omega), hSeconds]
    simp [Except.map, hOffset]

/-- Texts of which one is no number are no offset. -/
theorem offsetOf_of_not_isNumberText {sign : Int}
    (hNumbers : ∀ hours minutes, ¬ (IsNumberText first hours ∧ IsNumberText second minutes)) :
    offsetOf accepts sign first second = .ok none := by
  rw [offsetOf]
  split
  · rfl
  · next hTest =>
      obtain ⟨hFirst, hDigits, hOthers⟩ : first ≠ [] ∧ AreDigits first ∧ AreDigits second := by
        simpa [AreDigits] using hTest
      have hSecond : second = [] := by
        by_contra hSecond
        exact hNumbers _ _ ⟨⟨hFirst, hDigits, rfl⟩, ⟨hSecond, hOthers, rfl⟩⟩
      have hEmpty : readWord [] = .error .empty := rfl
      rw [hSecond, hEmpty]
      cases readWord first <;> rfl

/-- In a text of ASCII characters the bytes are the characters. -/
theorem splitClock_eq (hBody : ∀ c ∈ body, c.toNat < 128) :
    splitClock body = .ok (splitOffset body) := by
  rw [splitClock, splitOffset, byteSize_of_ascii hBody]
  split
  · rfl
  · split
    · next hLength =>
        have hFront : byteSize (body.take 2) = 2 := by
          rw [byteSize_of_ascii fun c hc => hBody c (List.mem_of_mem_take hc)]
          simp [hLength]
        have hCut := cutAt_append (body.take 2) (body.drop 2)
        rwa [hFront, List.take_append_drop, ← List.splitAt_eq] at hCut
    · rfl

/-- A clock has only characters of one byte. -/
theorem ascii_of_isClockText (hClock : IsClockText body hours minutes) :
    ∀ c ∈ body, c.toNat < 128 := by
  intro c hc
  rcases isDigit_or_colon hClock hc with hDigit | rfl
  · obtain ⟨-, hHigh⟩ : 48 ≤ c.toNat ∧ c.toNat ≤ 57 := Char.isDigit_iff_toNat.mp hDigit
    omega
  · decide

/-- The machine reads the offsets that are read, and never crashes. -/
theorem readOffsetStepwise_eq (hAccepts : AcceptsWithinDay accepts) :
    readOffsetStepwise accepts text = .ok (readOffset? text) := by
  cases text with
  | nil => rfl
  | cons sign body =>
      rw [readOffsetStepwise]
      by_cases hOther : sign ≠ '+' ∧ sign ≠ '-'
      · rw [if_pos hOther, readOffset?, if_pos hOther]
      rw [if_neg hOther]
      have hSign : sign = '+' ∨ sign = '-' := by tauto
      have hSize : byteSize [sign] = 1 := by rcases hSign with rfl | rfl <;> rfl
      have hCut : cutAt 1 (sign :: body) = .ok ([sign], body) := hSize ▸ cutAt_append [sign] body
      have hFactor : (if sign = '-' then -1 else 1 : Int) = 1 ∨
          (if sign = '-' then -1 else 1 : Int) = -1 := by
        split <;> decide
      simp only [hCut, bind, Except.bind]
      rcases Classical.em (∃ hours minutes, IsClockText body hours minutes) with
        ⟨hours, minutes, hClock⟩ | hNone
      · have hAscii := ascii_of_isClockText hClock
        have hTest : ¬ (body.any fun c => 128 ≤ c.toNat) = true := by
          simpa using hAscii
        obtain ⟨hHours, hMinutes⟩ := isClockText_iff.mp hClock
        rw [if_neg hTest, splitClock_eq hAscii, readOffset?_of_isClockText hSign hClock]
        have hValue : (if sign = '-' then -1 else 1 : Int) * (hours * 3600 + minutes * 60) =
            if sign = '-' then -(3600 * hours + 60 * minutes : Int)
              else 3600 * hours + 60 * minutes := by
          split <;> omega
        simp only [offsetOf_of_isNumberText hAccepts hHours hMinutes hFactor, hValue]
      · rw [readOffset?_of_not_isClockText fun hours minutes hClock => hNone ⟨hours, minutes, hClock⟩]
        split
        · rfl
        · next hTest =>
            rw [splitClock_eq (by simpa using hTest)]
            exact offsetOf_of_not_isNumberText fun hours minutes hNumbers =>
              hNone ⟨hours, minutes, isClockText_iff.mpr hNumbers⟩

/-- The machine finds the zones that are parsed, and never crashes. -/
theorem parseStepwise_eq (hAccepts : AcceptsWithinDay accepts) (text : String) :
    parseStepwise accepts text = .ok (parse? text) := by
  rw [parseStepwise, parse?]
  split
  · rfl
  · split
    · rfl
    · simp only [stripUtc_eq, readOffsetStepwise_eq hAccepts, bind, Except.bind]
      cases readOffset? (dropUtc (trim text.toList)) <;> rfl

/-- No text stops a machine that reads zones by bytes and in words of 32 bits, as long as the
calendar accepts all offsets of less than a day; and such a machine reads what `parse?` reads.
Blank text is read as no zone, and any other text as the one zone that it denotes without the
blanks around it: universal time under one of its names, an offset, or a name of its own. -/
theorem parse?_classifies {accepts : Int → Bool} (hAccepts : AcceptsWithinDay accepts)
    (text : String) :
    parseStepwise accepts text = .ok (parse? text) ∧
    (parse? text = none ↔ trim text.toList = []) ∧
    ∀ zone, parse? text = some zone ↔
      trim text.toList ≠ [] ∧ Denotes (trim text.toList) zone :=
  ⟨parseStepwise_eq hAccepts text, parse?_eq_none_iff, fun _ => parse?_eq_some_iff⟩

/-- The offset of four digits stands behind a name of universal time and between blanks. -/
theorem parse?_prefixed_offset :
    AcceptsWithinDay (fun seconds => -86400 < seconds ∧ seconds < 86400) ∧
    parseStepwise (fun seconds => -86400 < seconds ∧ seconds < 86400) " utc-0530 " =
      .ok (some (fixed (-19800))) := by
  have hAccepts : AcceptsWithinDay (fun seconds => -86400 < seconds ∧ seconds < 86400) :=
    fun seconds hLow hHigh => decide_eq_true ⟨hLow, hHigh⟩
  obtain ⟨hSteps, -, hZone⟩ := parse?_classifies hAccepts " utc-0530 "
  have hTrim : trim " utc-0530 ".toList = "utc".toList ++ '-' :: ("05".toList ++ "30".toList) := by
    decide
  have hOffset : IsOffsetText ('-' :: ("05".toList ++ "30".toList)) (-19800) :=
    .west (.packed ⟨by decide, by simp [AreDigits], rfl⟩ ⟨by decide, by simp [AreDigits], rfl⟩ rfl rfl)
      (by decide) (by decide)
  have hName : ¬ IsUniversal ("utc".toList ++ '-' :: ("05".toList ++ "30".toList)) := by
    rw [← any_utcNames_iff]
    decide
  have hRead : parse? " utc-0530 " = some (fixed (-19800)) := by
    rw [hZone, hTrim]
    exact ⟨by decide, .offset hName (.behind (.inl rfl) _) hOffset⟩
  exact ⟨hAccepts, hRead ▸ hSteps⟩

end DbClient.Zone
