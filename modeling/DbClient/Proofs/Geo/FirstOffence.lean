import DbClient.Proofs.Geo.Stopping
import DbClient.Proofs.Number.Digits

/-! The place that an error for a text tells. Main statement: `parse_fails_at_first_offence`, by
which the text in front of the place can be completed, but not with the next character behind
it. -/

namespace DbClient.MultiPolygon

open Text

variable {α β σ : Type}

/-- The text in front of `rest` can be completed, but not with the next character of `rest` behind
it: the reader then stops at the same place. -/
structure IsFirstOffence (reader : Reader σ) (state : σ) (token : String)
    (front rest : List Char) : Prop where
  trimmed : trimStart rest = rest
  completable : ∃ more next, Reads reader state (front ++ more) next []
  fatal : ∀ c behind, rest = c :: behind →
    ∀ more, Stops reader state (front ++ c :: more) token (c :: more)

/-- Wherever the reader stops is the first place where something is wrong. -/
def StopsFirst (reader : Reader σ) : Prop :=
  ∀ (state : σ) (text rest : List Char) (token : String), Stops reader state text token rest →
    ∃ front, text = front ++ rest ∧ IsFirstOffence reader state token front rest

/-- What the reader takes off does not depend on what is behind it. -/
def TakesPrefix (reader : Reader σ) : Prop :=
  ∀ {state next : σ} {text rest : List Char}, Reads reader state text next rest →
    ∃ front, text = front ++ rest ∧ ∀ other, Reads reader state (front ++ other) next other

/-- A reader that follows a grammar takes the same prefix off, whatever comes behind it. -/
theorem Follows.takesPrefix {reader : Reader σ} {Item : List Char → β → Prop} {push : σ → β → σ}
    (hReader : Follows reader Item push) : TakesPrefix reader := by
  intro state next text rest hRead
  obtain ⟨blanks, piece, value, hBlanks, hPiece, rfl, rfl⟩ := (hReader _ _ _ _).mp hRead
  refine ⟨blanks ++ piece, (List.append_assoc ..).symm, ?_⟩
  intro other
  rw [List.append_assoc]
  exact hReader.reads hBlanks hPiece state other

/-- Which character comes first behind blanks does not depend on what is behind it. -/
theorem absent_of_absent {c d : Char} (hd : isBlank d = false) {front behind : List Char}
    (hAbsent : ∀ rest, trimStart (front ++ d :: behind) ≠ c :: rest) (more : List Char) :
    ∀ rest, trimStart (front ++ d :: more) ≠ c :: rest := by
  rw [trimStart_append_cons hd] at hAbsent ⊢
  cases hFront : trimStart front with
  | nil => simpa [hFront] using hAbsent
  | cons first others => simpa [hFront] using hAbsent

/-- A text lacks a character behind its blanks, and so it does with another text behind the
character that it has there. -/
theorem Lacks.exists_front {c : Char} {text rest : List Char} {token : String}
    (hLacks : Lacks c text token rest) :
    ∃ blanks, isAllBlank blanks = true ∧ text = blanks ++ rest ∧ trimStart rest = rest ∧
      ∀ d behind, rest = d :: behind →
        ∀ more, Lacks c (blanks ++ d :: more) token (d :: more) := by
  obtain ⟨hAbsent, rfl, rfl⟩ := hLacks
  obtain ⟨blanks, hBlanks, hText⟩ := exists_blanks text
  refine ⟨blanks, hBlanks, hText, trimStart_trimStart text, ?_⟩
  intro d behind hRest more
  have hd := isBlank_of_trimStart hRest
  rw [hText, hRest] at hAbsent
  refine ⟨absent_of_absent hd hAbsent more, rfl, ?_⟩
  rw [trimStart_append hBlanks, trimStart_cons hd]

/-- Items that are completed up to the end of one are completed by a bracket. -/
theorem IsFirstOffence.in_item {item : Reader σ} (hPrefix : TakesPrefix item) {state : σ}
    {token : String} {front rest : List Char}
    (hOffence : IsFirstOffence item state token front rest) :
    IsFirstOffence (readItems item) state token front rest := by
  obtain ⟨more, next, hMore⟩ := hOffence.completable
  obtain ⟨whole, hWhole, hTake⟩ := hPrefix hMore
  refine ⟨hOffence.trimmed, ⟨more ++ [']'], next, ?_⟩, ?_⟩
  · rw [← List.append_assoc, hWhole, List.append_nil]
    exact reads_readItems_step.mpr ⟨next, _, hTake [']'], .inl ⟨rfl, rfl⟩⟩
  · intro c behind hRest more
    exact stops_readItems_iff.mpr (.inl (hOffence.fatal c behind hRest more))

/-- Behind an item, there has to be a comma or a bracket. -/
theorem IsFirstOffence.behind_item {item : Reader σ} {state between : σ} {token : String}
    {front middle rest : List Char}
    (hTake : ∀ other, Reads item state (front ++ other) between other)
    (hOpen : ∀ closed, trimStart middle ≠ ']' :: closed) (hComma : Lacks ',' middle token rest) :
    ∃ blanks, middle = blanks ++ rest ∧
      IsFirstOffence (readItems item) state token (front ++ blanks) rest := by
  obtain ⟨blanks, hBlanks, rfl, hTrimmed, hFatal⟩ := hComma.exists_front
  refine ⟨blanks, rfl, hTrimmed, ⟨[']'], between, ?_⟩, ?_⟩
  · rw [List.append_assoc]
    refine reads_readItems_step.mpr ⟨between, _, hTake _, .inl ⟨?_, rfl⟩⟩
    exact (trimStart_eq_cons_iff rfl).mpr ⟨blanks, hBlanks, rfl⟩
  · intro c behind hRest more
    subst hRest
    rw [List.append_assoc]
    refine stops_readItems_iff.mpr (.inr ⟨between, _, hTake _, .inl ⟨?_, ?_⟩⟩)
    · exact absent_of_absent (isBlank_of_trimStart hTrimmed) hOpen more
    · exact hFatal c behind rfl more

/-- What is wrong with the items behind a comma is what is wrong first. -/
theorem IsFirstOffence.behind_comma {item : Reader σ} {state between : σ} {token : String}
    {front blanks others rest : List Char}
    (hTake : ∀ other, Reads item state (front ++ other) between other)
    (hBlanks : isAllBlank blanks = true)
    (hOffence : IsFirstOffence (readItems item) between token others rest) :
    IsFirstOffence (readItems item) state token (front ++ (blanks ++ ',' :: others)) rest := by
  have hStart : ∀ tail, trimStart (blanks ++ ',' :: (others ++ tail)) = ',' :: (others ++ tail) :=
    fun tail => (trimStart_eq_cons_iff rfl).mpr ⟨blanks, hBlanks, rfl⟩
  refine ⟨hOffence.trimmed, ?_, ?_⟩
  · obtain ⟨more, next, hMore⟩ := hOffence.completable
    have hRead := reads_readItems_step.mpr ⟨between, _, hTake _, .inr ⟨_, hStart more, hMore⟩⟩
    exact ⟨more, next, by simpa using hRead⟩
  · intro c behind hRest more
    have hStop := stops_readItems_iff.mpr (.inr
      ⟨between, _, hTake _, .inr ⟨_, hStart (c :: more), hOffence.fatal c behind hRest more⟩⟩)
    simpa using hStop

/-- If a reader of items stops at the first offence, so does the loop over them. -/
theorem StopsFirst.readItems {item : Reader σ} (hItem : StopsFirst item)
    (hPrefix : TakesPrefix item) : StopsFirst (readItems item) := by
  intro state text rest token hStops
  induction hLength : text.length using Nat.strongRecOn generalizing state text with
  | _ length ih =>
      rcases stops_readItems_iff.mp hStops with hFirst | ⟨between, middle, hFirst, hRest⟩
      · obtain ⟨front, hText, hOffence⟩ := hItem _ _ _ _ hFirst
        exact ⟨front, hText, hOffence.in_item hPrefix⟩
      · obtain ⟨front, rfl, hTake⟩ := hPrefix hFirst
        rcases hRest with ⟨hOpen, hComma⟩ | ⟨behind, hComma, hOthers⟩
        · obtain ⟨blanks, rfl, hOffence⟩ := IsFirstOffence.behind_item hTake hOpen hComma
          exact ⟨_, (List.append_assoc ..).symm, hOffence⟩
        · have hFront := hFirst.length_lt
          have hBehind := length_lt_of_trimStart hComma
          obtain ⟨others, rfl, hOffence⟩ := ih behind.length (by omega) _ _ hOthers rfl
          obtain ⟨blanks, hBlanks, rfl⟩ := (trimStart_eq_cons_iff rfl).mp hComma
          exact ⟨_, by simp, hOffence.behind_comma hTake hBlanks⟩

/-- What is wrong with the items of a list is what is wrong first with the list. -/
theorem IsFirstOffence.in_list {item : Reader σ} (hCloses : NeverCloses item) {state : σ}
    {token : String} {blanks front rest : List Char} (hBlanks : isAllBlank blanks = true)
    (hClose : ∀ closed, trimStart (front ++ rest) ≠ ']' :: closed)
    (hOffence : IsFirstOffence (readItems item) state token front rest) :
    IsFirstOffence (readList item) state token (blanks ++ '[' :: front) rest := by
  have hStart : ∀ tail, trimStart (blanks ++ '[' :: (front ++ tail)) = '[' :: (front ++ tail) :=
    fun tail => (trimStart_eq_cons_iff rfl).mpr ⟨blanks, hBlanks, rfl⟩
  refine ⟨hOffence.trimmed, ?_, ?_⟩
  · obtain ⟨more, next, hMore⟩ := hOffence.completable
    have hRead := reads_readList_iff.mpr ⟨_, hStart more,
      .inr ⟨hCloses.readItems hMore, reads_readItems_iff.mp hMore⟩⟩
    exact ⟨more, next, by simpa using hRead⟩
  · intro c behind hRest more
    subst hRest
    have hc := isBlank_of_trimStart hOffence.trimmed
    have hStop := stops_readList_iff.mpr (.inr ⟨_, hStart (c :: more),
      absent_of_absent hc hClose more, hOffence.fatal c behind rfl more⟩)
    simpa using hStop

/-- If a reader of items stops at the first offence, so does the reader of their lists. -/
theorem StopsFirst.readList {item : Reader σ} (hItem : StopsFirst item)
    (hPrefix : TakesPrefix item) (hCloses : NeverCloses item) : StopsFirst (readList item) := by
  intro state text rest token hStops
  rcases stops_readList_iff.mp hStops with hOpen | ⟨inner, hOpen, hClose, hItems⟩
  · obtain ⟨blanks, hBlanks, rfl, hTrimmed, hFatal⟩ := hOpen.exists_front
    refine ⟨blanks, rfl, hTrimmed, ⟨['[', ']'], state, ?_⟩, ?_⟩
    · refine reads_readList_iff.mpr ⟨[']'], ?_, .inl ⟨rfl, rfl⟩⟩
      exact (trimStart_eq_cons_iff rfl).mpr ⟨blanks, hBlanks, rfl⟩
    · intro c behind hRest more
      exact stops_readList_iff.mpr (.inl (hFatal c behind hRest more))
  · obtain ⟨blanks, hBlanks, rfl⟩ := (trimStart_eq_cons_iff rfl).mp hOpen
    obtain ⟨front, rfl, hOffence⟩ := hItem.readItems hPrefix _ _ _ _ hItems
    exact ⟨_, by simp, hOffence.in_list hCloses hBlanks hClose⟩

/-- A coordinate without the delimiter that it should have is a text of the grammar, and so it is
with anything behind the other delimiter. -/
theorem ReadsNumber.of_lacks {format : CoordinateText α} {delimiter : Char}
    {text middle rest : List Char} {x : α} {token : String}
    (hRead : ReadsNumber format text x middle) (hLacks : Lacks delimiter middle token rest) :
    ∃ piece, IsCoordinateText format piece x ∧ text = piece ++ rest ∧ trimStart rest = rest ∧
      ∀ c behind, rest = c :: behind → ∀ more,
        ReadsNumber format (piece ++ c :: more) x (c :: more) ∧
          Lacks delimiter (c :: more) token (c :: more) := by
  obtain ⟨piece, hPiece, rfl, hEnds⟩ := hRead.exists_text
  obtain ⟨blanks, hBlanks, rfl, hTrimmed, hFatal⟩ := hLacks.exists_front
  have hNone : blanks = [] := by
    cases blanks with
    | nil => rfl
    | cons c others =>
        have hc := isBlank_of_endsNumber (hEnds c _ rfl)
        simp [isAllBlank, hc] at hBlanks
  subst hNone
  refine ⟨piece, hPiece, rfl, hTrimmed, ?_⟩
  intro c behind hRest more
  exact ⟨hPiece.readsNumber (hEnds c behind hRest) more, hFatal c behind hRest more⟩

/-- If there is a numeral at all, every beginning of a point can be completed. -/
theorem stopsFirst_readPoint {format : CoordinateText α} {numeral : List Char} {z : α}
    (hNumeral : IsCoordinateText format numeral z) : StopsFirst (readPoint format) := by
  intro shape text rest token hStops
  have hReads {blanks first second : List Char} {x y : α} (hBlanks : isAllBlank blanks = true)
      (hFirst : IsCoordinateText format first x) (hSecond : IsCoordinateText format second y) :
      Reads (readPoint format) shape (blanks ++ '(' :: (first ++ ',' :: (second ++ [')'])))
        (shape.pushPoint ⟨x, y⟩) [] := by
    have hRead := (follows_readPoint format).reads hBlanks (.pair hFirst hSecond) shape []
    rwa [List.append_nil] at hRead
  rcases stops_readPoint_iff.mp hStops with hOpen | ⟨inner, x, middle, hOpen, hX, hRest⟩
  · obtain ⟨blanks, hBlanks, rfl, hTrimmed, hFatal⟩ := hOpen.exists_front
    refine ⟨blanks, rfl, hTrimmed, ⟨_, _, hReads hBlanks hNumeral hNumeral⟩, ?_⟩
    intro c behind hRest more
    exact stops_readPoint_iff.mpr (.inl (hFatal c behind hRest more))
  · obtain ⟨blanks, hBlanks, rfl⟩ := (trimStart_eq_cons_iff rfl).mp hOpen
    have hStart : ∀ tail, trimStart (blanks ++ '(' :: tail) = '(' :: tail := fun tail =>
      (trimStart_eq_cons_iff rfl).mpr ⟨blanks, hBlanks, rfl⟩
    rcases hRest with hComma | ⟨behind, y, last, hComma, hY, hClose⟩
    · obtain ⟨first, hFirst, rfl, hTrimmed, hFatal⟩ := hX.of_lacks hComma
      refine ⟨blanks ++ '(' :: first, by simp, hTrimmed, ?_, ?_⟩
      · exact ⟨',' :: (numeral ++ [')']), _, by simpa using hReads hBlanks hFirst hNumeral⟩
      · intro c behind hRest more
        obtain ⟨hX, hComma⟩ := hFatal c behind hRest more
        have hStop : Stops (readPoint format) shape (blanks ++ '(' :: (first ++ c :: more)) token
            (c :: more) :=
          stops_readPoint_iff.mpr (.inr ⟨_, x, _, hStart _, hX, .inl hComma⟩)
        simpa using hStop
    · obtain ⟨first, hFirst, rfl⟩ := (readsNumber_delimited_iff rfl).mp ⟨middle, hX, hComma⟩
      obtain ⟨second, hSecond, rfl, hTrimmed, hFatal⟩ := hY.of_lacks hClose
      refine ⟨blanks ++ '(' :: (first ++ ',' :: second), by simp, hTrimmed, ?_, ?_⟩
      · exact ⟨[')'], _, by simpa using hReads hBlanks hFirst hSecond⟩
      · intro c behind hRest more
        obtain ⟨hY, hClose⟩ := hFatal c behind hRest more
        have hX := hFirst.readsNumber (rfl : endsNumber ',' = true) (second ++ c :: more)
        have hStop : Stops (readPoint format) shape
            (blanks ++ '(' :: (first ++ ',' :: (second ++ c :: more))) token (c :: more) :=
          stops_readPoint_iff.mpr (.inr ⟨_, x, _, hStart _, hX, .inr ⟨_, y, _, rfl, hY, hClose⟩⟩)
        simpa using hStop

/-- What is done with the result does not matter to where a reader stops. -/
theorem StopsFirst.closing {reader : Reader σ} (hReader : StopsFirst reader) (close : σ → σ) :
    StopsFirst fun state text => do
      let (state, rest) ← reader state text
      return (close state, rest) := by
  intro state text rest token hStops
  obtain ⟨front, hText, hOffence⟩ := hReader _ _ _ _ (stops_closing_iff.mp hStops)
  obtain ⟨more, next, hMore⟩ := hOffence.completable
  refine ⟨front, hText, hOffence.trimmed, ⟨more, _, reads_closing_iff.mpr ⟨next, hMore, rfl⟩⟩, ?_⟩
  intro c behind hRest more
  exact stops_closing_iff.mpr (hOffence.fatal c behind hRest more)

theorem stopsFirst_readRing {format : CoordinateText α} {numeral : List Char} {z : α}
    (hNumeral : IsCoordinateText format numeral z) : StopsFirst (readRing format) :=
  ((stopsFirst_readPoint hNumeral).readList (follows_readPoint format).takesPrefix
    (neverCloses_readPoint format)).closing closeRing

theorem stopsFirst_readPolygon {format : CoordinateText α} {numeral : List Char} {z : α}
    (hNumeral : IsCoordinateText format numeral z) : StopsFirst (readPolygon format) :=
  ((stopsFirst_readRing hNumeral).readList (follows_readRing format).takesPrefix
    (neverCloses_readRing format)).closing closePolygon

/-- A whole text fails where something is wrong first. -/
theorem read_stops_first {format : CoordinateText α} {numeral : List Char} {z : α}
    (hNumeral : IsCoordinateText format numeral z) {text rest : List Char} {token : String}
    (hError : read format text = .error (.expected token rest)) :
    ∃ front, text = front ++ rest ∧
      (∃ more shape, read format (front ++ more) = .ok shape) ∧
      ∀ c behind, rest = c :: behind →
        ∀ more, read format (front ++ c :: more) = .error (.expected token (c :: more)) := by
  rcases read_eq_error_iff.mp hError with hStops | ⟨shape, left, hRead, hBlank, rfl, rfl⟩
  · have hList := (stopsFirst_readPolygon hNumeral).readList (follows_readPolygon format).takesPrefix
      (neverCloses_readPolygon format)
    obtain ⟨front, hText, hOffence⟩ := hList _ _ _ _ hStops
    obtain ⟨more, shape, hMore⟩ := hOffence.completable
    refine ⟨front, hText, ⟨more, shape, read_eq_ok_iff.mpr ⟨[], hMore, rfl⟩⟩, ?_⟩
    intro c behind hRest more
    exact read_eq_error_iff.mpr (.inl (hOffence.fatal c behind hRest more))
  · have hFollows := (follows_readPolygon format).readList (neverCloses_readPolygon format)
    obtain ⟨front, rfl, hTake⟩ := hFollows.takesPrefix hRead
    obtain ⟨blanks, hBlanks, hLeft⟩ := exists_blanks left
    refine ⟨front ++ blanks, ?_, ⟨[], shape, read_eq_ok_iff.mpr ⟨blanks, ?_, hBlanks⟩⟩, ?_⟩
    · rw [List.append_assoc, ← hLeft]
    · rw [List.append_nil]
      exact hTake blanks
    · intro c behind hRest more
      have hc := isBlank_of_trimStart hRest
      rw [List.append_assoc]
      refine read_eq_error_iff.mpr (.inr ⟨shape, _, hTake _, ?_, rfl, ?_⟩)
      · simp [isAllBlank, hc]
      · rw [trimStart_append hBlanks, trimStart_cons hc]

/-! ### Errors -/

/-- What an error says about a place in a text. -/
def placeText (token : String) (offset : Nat) : String :=
  "Expected " ++ token ++ " at offset " ++ .ofList (Number.natText offset) ++
    " of multi-polygon text"

/-- What an error says tells which place it is about. -/
theorem offset_eq_of_placeText {token token' : String} {offset offset' : Nat}
    (hSame : placeText token offset = placeText token' offset') : offset = offset' := by
  have hSplit (token : String) (offset : Nat) : (placeText token offset).toList =
      ("Expected " ++ token ++ " at offset ").toList ++ Number.natText offset ++
        " of multi-polygon text".toList := by
    rw [placeText, String.toList_append, String.toList_append, String.toList_ofList]
  -- There is a blank in front of the offset, so its digits are the last ones of what is left.
  have hDigits (token : String) (offset : Nat) :
      (("Expected " ++ token ++ " at offset ").toList ++ Number.natText offset).reverse.takeWhile
        Char.isDigit = (Number.natText offset).reverse := by
    have hOffset : Number.AreDigits (Number.natText offset).reverse := fun c hc =>
      Number.areDigits_natText offset c (List.mem_reverse.mp hc)
    have hBlank : Number.EndsDigits ("Expected " ++ token ++ " at offset ").toList.reverse := by
      simp [String.toList_append, Number.endsDigits_cons]
    rw [List.reverse_append, Number.takeWhile_digits hOffset hBlank]
  have hFront := congrArg String.toList hSame
  rw [hSplit, hSplit, List.append_cancel_right_eq] at hFront
  have hText : Number.natText offset = Number.natText offset' := by
    rw [← List.reverse_inj, ← hDigits token offset, hFront, hDigits]
  rw [← Number.natOfDigits_natText offset, hText, Number.natOfDigits_natText]

/-- The offset in a message is the size of the text in front of the place where the reader stopped.
-/
theorem parse_of_read_error {front rest : List Char} {token : String}
    (hError : read .binary64 (front ++ rest) = .error (.expected token rest)) :
    parse (.ofList (front ++ rest)) =
      .error (.invalidInput (placeText token (byteSize front))) := by
  have hSize : byteSize (front ++ rest) - byteSize rest = byteSize front := by
    rw [byteSize_append, Nat.add_sub_cancel]
  rw [parse, String.toList_ofList, hError, Except.mapError, ReadFault.toError, hSize, placeText]

/-- An error for a malformed text tells the place of the first offence, in bytes. It is in the text
or at its end, and between two characters. The text in front of it can be completed to one that is
read; but whatever stands behind the next character, the error is the same. -/
theorem parse_fails_at_first_offence (text reason : String)
    (hError : parse text = .error (.invalidInput reason)) :
    (∃ token offset, reason = placeText token offset) ∧
    ∀ token offset, reason = placeText token offset →
      offset ≤ byteSize text.toList ∧
      ∃ front back, cutBytes? offset text.toList = some (front, back) ∧
        (∃ more shape, parse (.ofList (front ++ more)) = .ok shape) ∧
        ∀ c behind, back = c :: behind →
          ∀ more, parse (.ofList (front ++ c :: more)) = .error (.invalidInput reason) := by
  have hNumeral : IsCoordinateText .binary64 ['0'] (0 : Float) :=
    ⟨List.forall_mem_singleton.mpr rfl, by decide⟩
  obtain ⟨token, rest, hRead⟩ : ∃ token rest,
      read .binary64 text.toList = .error (.expected token rest) := by
    rw [parse] at hError
    cases hRead : read .binary64 text.toList with
    | ok shape => simp [hRead, Except.mapError] at hError
    | error fault =>
        cases fault with
        | expected token rest => exact ⟨token, rest, rfl⟩
        | number token => simp [hRead, Except.mapError, ReadFault.toError] at hError
  obtain ⟨front, hText, ⟨more, shape, hMore⟩, hFatal⟩ := read_stops_first hNumeral hRead
  have hReason : reason = placeText token (byteSize front) := by
    have hParse := parse_of_read_error (hText ▸ hRead)
    rw [← hText, String.ofList_toList, hError] at hParse
    simpa using hParse
  refine ⟨⟨token, _, hReason⟩, ?_⟩
  intro token' offset hPlace
  obtain rfl := offset_eq_of_placeText (hReason.symm.trans hPlace)
  refine ⟨?_, front, rest, cutBytes?_eq_some_iff.mpr ⟨rfl, hText.symm⟩, ⟨more, shape, ?_⟩, ?_⟩
  · rw [hText, byteSize_append]
    exact Nat.le_add_right _ _
  · rw [parse, String.toList_ofList, hMore, Except.mapError]
  · intro c behind hRest more
    rw [hReason]
    exact parse_of_read_error (hFatal c behind hRest more)

/-- The place is behind a blank of three bytes. -/
theorem parse_fails_behind_blank :
    parse "[\u3000(" = .error (.invalidInput (placeText "'['" 4)) ∧
    ∃ front back, cutBytes? 4 "[\u3000(".toList = some (front, back) ∧
      (∃ more shape, parse (.ofList (front ++ more)) = .ok shape) ∧
      ∀ c behind, back = c :: behind → ∀ more,
        parse (.ofList (front ++ c :: more)) = .error (.invalidInput (placeText "'['" 4)) := by
  have hError : parse "[\u3000(" = .error (.invalidInput (placeText "'['" 4)) := by
    decide +kernel
  obtain ⟨-, hPlace⟩ := parse_fails_at_first_offence _ _ hError
  exact ⟨hError, (hPlace _ _ rfl).2⟩

end DbClient.MultiPolygon
