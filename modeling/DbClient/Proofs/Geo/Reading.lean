import DbClient.Geo.Reader

/-! What readers of multi-polygons accept. -/

namespace DbClient.MultiPolygon

open Text

variable {α β σ : Type}

theorem length_lt_of_trimStart {c : Char} {text rest : List Char}
    (hText : trimStart text = c :: rest) : rest.length < text.length := by
  have hLength := length_trimStart_le text
  rw [hText, List.length_cons] at hLength
  exact hLength

/-- A character is taken exactly if it is the first one that is not blank. -/
theorem eat?_eq_some_iff {c : Char} {text : List Char} {rest : Rest text} :
    eat? c text = some rest ↔ trimStart text = c :: rest.val := by
  unfold eat?
  split
  · rename_i hText
    simp [hText]
  · rename_i head tail hText
    by_cases hHead : head = c <;> simp [hText, hHead, Subtype.ext_iff]

/-- A character is not taken exactly if it is not the first one that is not blank. -/
theorem eat?_eq_none_iff {c : Char} {text : List Char} :
    eat? c text = none ↔ ∀ rest, trimStart text ≠ c :: rest := by
  unfold eat?
  split
  · rename_i hText
    simp [hText]
  · rename_i head tail hText
    by_cases hHead : head = c <;> simp [hText, hHead]

theorem expect_eq_ok_iff {c : Char} {text : List Char} {rest : Rest text} :
    expect c text = .ok rest ↔ trimStart text = c :: rest.val := by
  rw [← eat?_eq_some_iff, expect]
  cases eat? c text <;> simp

theorem eat?_of_trimStart {c : Char} {text rest : List Char} (hText : trimStart text = c :: rest) :
    eat? c text = some ⟨rest, length_lt_of_trimStart hText⟩ :=
  eat?_eq_some_iff.mpr hText

theorem expect_of_trimStart {c : Char} {text rest : List Char}
    (hText : trimStart text = c :: rest) :
    expect c text = .ok ⟨rest, length_lt_of_trimStart hText⟩ :=
  expect_eq_ok_iff.mpr hText

/-- In a state, a reader takes a text off and gets to a next state and a rest. -/
def Reads (reader : Reader σ) (state : σ) (text : List Char) (next : σ) (rest : List Char) :
    Prop :=
  ∃ shorter : rest.length < text.length, reader state text = .ok (next, ⟨rest, shorter⟩)

theorem Reads.length_lt {reader : Reader σ} {state next : σ} {text rest : List Char}
    (hRead : Reads reader state text next rest) : rest.length < text.length := by
  obtain ⟨shorter, -⟩ := hRead
  exact shorter

/-- Items are read one after another, with commas between them, up to a closing bracket. -/
inductive ReadsItems (item : Reader σ) : σ → List Char → σ → List Char → Prop where
  | last {state next : σ} {text middle rest : List Char} (hItem : Reads item state text next middle)
      (hClose : trimStart middle = ']' :: rest) : ReadsItems item state text next rest
  | more {state between next : σ} {text middle behind rest : List Char}
      (hItem : Reads item state text between middle) (hComma : trimStart middle = ',' :: behind)
      (hOthers : ReadsItems item between behind next rest) : ReadsItems item state text next rest

/-- One step of the reading of items. -/
theorem reads_readItems_step {item : Reader σ} {state next : σ} {text rest : List Char} :
    Reads (readItems item) state text next rest ↔
      ∃ between middle, Reads item state text between middle ∧
        (trimStart middle = ']' :: rest ∧ next = between ∨
          ∃ behind, trimStart middle = ',' :: behind ∧
            Reads (readItems item) between behind next rest) := by
  constructor
  · rintro ⟨shorter, hRead⟩
    rw [readItems] at hRead
    cases hItem : item state text with
    | error fault => simp [hItem, bind, Except.bind] at hRead
    | ok read =>
        obtain ⟨between, middle, hMiddle⟩ := read
        refine ⟨between, middle, ⟨hMiddle, hItem⟩, ?_⟩
        simp only [hItem, bind, Except.bind] at hRead
        cases hClose : eat? ']' middle with
        | some closed =>
            simp only [hClose, pure, Except.pure, Except.ok.injEq, Prod.mk.injEq,
              Subtype.mk.injEq] at hRead
            obtain ⟨rfl, rfl⟩ := hRead
            exact .inl ⟨eat?_eq_some_iff.mp hClose, rfl⟩
        | none =>
            simp only [hClose] at hRead
            cases hComma : expect ',' middle with
            | error fault => simp [hComma] at hRead
            | ok behind =>
                simp only [hComma] at hRead
                cases hOthers : readItems item between behind with
                | error fault => simp [hOthers] at hRead
                | ok others =>
                    simp only [hOthers, pure, Except.pure, Except.ok.injEq, Prod.mk.injEq,
                      Subtype.mk.injEq] at hRead
                    obtain ⟨rfl, rfl⟩ := hRead
                    exact .inr ⟨behind, expect_eq_ok_iff.mp hComma, others.2.2, hOthers⟩
  · rintro ⟨between, middle, ⟨hMiddle, hItem⟩, hRest⟩
    rw [Reads, readItems]
    rcases hRest with ⟨hClose, rfl⟩ | ⟨behind, hComma, ⟨hBehind, hOthers⟩⟩
    · have hRest := length_lt_of_trimStart hClose
      refine ⟨by omega, ?_⟩
      simp [hItem, eat?_of_trimStart hClose, bind, Except.bind, pure, Except.pure]
    · have hLength := length_lt_of_trimStart hComma
      have hOpen : eat? ']' middle = none := by
        rw [eat?_eq_none_iff, hComma]
        simp
      refine ⟨by omega, ?_⟩
      simp [hItem, hOpen, expect_of_trimStart hComma, hOthers, bind, Except.bind, pure, Except.pure]

/-- The loop over items reads them one after the other, with commas between them and a bracket
behind the last one. -/
theorem reads_readItems_iff {item : Reader σ} {state next : σ} {text rest : List Char} :
    Reads (readItems item) state text next rest ↔ ReadsItems item state text next rest := by
  constructor
  · intro hRead
    induction hLength : text.length using Nat.strongRecOn generalizing state text with
    | _ length ih =>
        obtain ⟨between, middle, hItem, hRest⟩ := reads_readItems_step.mp hRead
        rcases hRest with ⟨hClose, rfl⟩ | ⟨behind, hComma, hOthers⟩
        · exact .last hItem hClose
        · have hMiddle := hItem.length_lt
          have hBehind := length_lt_of_trimStart hComma
          exact .more hItem hComma (ih behind.length (by omega) hOthers rfl)
  · intro hRead
    induction hRead with
    | last hItem hClose => exact reads_readItems_step.mpr ⟨_, _, hItem, .inl ⟨hClose, rfl⟩⟩
    | more hItem hComma hOthers ih =>
        exact reads_readItems_step.mpr ⟨_, _, hItem, .inr ⟨_, hComma, ih⟩⟩

/-- A list is either empty or has items. -/
theorem reads_readList_iff {item : Reader σ} {state next : σ} {text rest : List Char} :
    Reads (readList item) state text next rest ↔
      ∃ inner, trimStart text = '[' :: inner ∧
        (trimStart inner = ']' :: rest ∧ next = state ∨
          (∀ closed, trimStart inner ≠ ']' :: closed) ∧ ReadsItems item state inner next rest) := by
  constructor
  · rintro ⟨shorter, hRead⟩
    unfold readList at hRead
    cases hOpen : expect '[' text with
    | error fault => simp [hOpen, bind, Except.bind] at hRead
    | ok inner =>
        refine ⟨inner, expect_eq_ok_iff.mp hOpen, ?_⟩
        simp only [hOpen, bind, Except.bind] at hRead
        cases hClose : eat? ']' inner.val with
        | some closed =>
            simp only [hClose, pure, Except.pure, Except.ok.injEq, Prod.mk.injEq,
              Subtype.mk.injEq] at hRead
            obtain ⟨rfl, rfl⟩ := hRead
            exact .inl ⟨eat?_eq_some_iff.mp hClose, rfl⟩
        | none =>
            simp only [hClose] at hRead
            cases hItems : readItems item state inner.val with
            | error fault => simp [hItems] at hRead
            | ok items =>
                simp only [hItems, pure, Except.pure, Except.ok.injEq, Prod.mk.injEq,
                  Subtype.mk.injEq] at hRead
                obtain ⟨rfl, rfl⟩ := hRead
                exact .inr ⟨eat?_eq_none_iff.mp hClose,
                  reads_readItems_iff.mp ⟨items.2.2, hItems⟩⟩
  · rintro ⟨inner, hOpen, hRest⟩
    have hInner := length_lt_of_trimStart hOpen
    unfold Reads readList
    rcases hRest with ⟨hClose, rfl⟩ | ⟨hNone, hItems⟩
    · have hRest := length_lt_of_trimStart hClose
      refine ⟨by omega, ?_⟩
      simp [expect_of_trimStart hOpen, eat?_of_trimStart hClose, bind, Except.bind, pure,
        Except.pure]
    · obtain ⟨hRest, hRead⟩ := reads_readItems_iff.mpr hItems
      refine ⟨by omega, ?_⟩
      simp [expect_of_trimStart hOpen, eat?_eq_none_iff.mpr hNone, hRead, bind, Except.bind, pure,
        Except.pure]

/-- Items that each put a value into the state put all of them into it, one after another. -/
theorem ReadsItems.exists_foldl {item : Reader σ} (push : σ → β → σ)
    (hItem : ∀ {state next : σ} {text rest : List Char}, Reads item state text next rest →
      ∃ value, next = push state value)
    {state next : σ} {text rest : List Char} (hRead : ReadsItems item state text next rest) :
    ∃ values : List β, next = values.foldl push state := by
  induction hRead with
  | last hLast hClose =>
      obtain ⟨value, rfl⟩ := hItem hLast
      exact ⟨[value], rfl⟩
  | more hFirst hComma hOthers ih =>
      obtain ⟨value, rfl⟩ := hItem hFirst
      obtain ⟨values, rfl⟩ := ih
      exact ⟨value :: values, rfl⟩

theorem Reads.exists_foldl {item : Reader σ} (push : σ → β → σ)
    (hItem : ∀ {state next : σ} {text rest : List Char}, Reads item state text next rest →
      ∃ value, next = push state value)
    {state next : σ} {text rest : List Char} (hRead : Reads (readList item) state text next rest) :
    ∃ values : List β, next = values.foldl push state := by
  obtain ⟨inner, -, ⟨-, rfl⟩ | ⟨-, hItems⟩⟩ := reads_readList_iff.mp hRead
  · exact ⟨[], rfl⟩
  · exact hItems.exists_foldl push hItem

/-- A coordinate is what the text up to the next delimiter denotes, and the rest starts there. -/
def ReadsNumber (format : CoordinateText α) (text : List Char) (x : α) (rest : List Char) : Prop :=
  format.read? (trim ((trimStart text).takeWhile (!endsNumber ·))) = some x ∧
    rest = (trimStart text).dropWhile (!endsNumber ·)

/-- A coordinate is read exactly if a numeral stands in front of the next delimiter. -/
theorem readNumber_eq_ok_iff {format : CoordinateText α} {text : List Char} {x : α}
    {rest : { rest : List Char // rest.length ≤ text.length }} :
    readNumber format text = .ok (x, rest) ↔ ReadsNumber format text x rest := by
  unfold readNumber ReadsNumber
  dsimp only
  split
  · rename_i hNone
    simp [hNone]
  · rename_i value hSome
    simp [hSome, Subtype.ext_iff, eq_comm]

theorem ReadsNumber.length_le {format : CoordinateText α} {text rest : List Char} {x : α}
    (hRead : ReadsNumber format text x rest) : rest.length ≤ text.length := by
  rw [hRead.2]
  exact Nat.le_trans (List.dropWhile_sublist _).length_le (length_trimStart_le text)

/-- A point is two coordinates in parentheses with a comma between them. -/
theorem reads_readPoint_iff {format : CoordinateText α} {shape next : MultiPolygon α}
    {text rest : List Char} :
    Reads (readPoint format) shape text next rest ↔
      ∃ inner x middle behind y last, trimStart text = '(' :: inner ∧
        ReadsNumber format inner x middle ∧ trimStart middle = ',' :: behind ∧
        ReadsNumber format behind y last ∧ trimStart last = ')' :: rest ∧
        next = shape.pushPoint ⟨x, y⟩ := by
  constructor
  · rintro ⟨shorter, hRead⟩
    unfold readPoint at hRead
    cases hOpen : expect '(' text with
    | error fault => simp [hOpen, bind, Except.bind] at hRead
    | ok inner =>
        simp only [hOpen, bind, Except.bind] at hRead
        cases hX : readNumber format inner.val with
        | error fault => simp [hX] at hRead
        | ok first =>
            simp only [hX] at hRead
            cases hComma : expect ',' first.2.val with
            | error fault => simp [hComma] at hRead
            | ok behind =>
                simp only [hComma] at hRead
                cases hY : readNumber format behind.val with
                | error fault => simp [hY] at hRead
                | ok second =>
                    simp only [hY] at hRead
                    cases hClose : expect ')' second.2.val with
                    | error fault => simp [hClose] at hRead
                    | ok last =>
                        simp only [hClose, pure, Except.pure, Except.ok.injEq, Prod.mk.injEq,
                          Subtype.mk.injEq] at hRead
                        obtain ⟨rfl, rfl⟩ := hRead
                        exact ⟨inner, first.1, first.2, behind, second.1, second.2,
                          expect_eq_ok_iff.mp hOpen, readNumber_eq_ok_iff.mp hX,
                          expect_eq_ok_iff.mp hComma, readNumber_eq_ok_iff.mp hY,
                          expect_eq_ok_iff.mp hClose, rfl⟩
  · rintro ⟨inner, x, middle, behind, y, last, hOpen, hX, hComma, hY, hClose, rfl⟩
    have hReadX : readNumber format inner = .ok (x, ⟨middle, hX.length_le⟩) :=
      readNumber_eq_ok_iff.mpr hX
    have hReadY : readNumber format behind = .ok (y, ⟨last, hY.length_le⟩) :=
      readNumber_eq_ok_iff.mpr hY
    have hInner := length_lt_of_trimStart hOpen
    have hMiddle := hX.length_le
    have hBehind := length_lt_of_trimStart hComma
    have hLast := hY.length_le
    have hRest := length_lt_of_trimStart hClose
    unfold Reads readPoint
    refine ⟨by omega, ?_⟩
    simp [expect_of_trimStart hOpen, hReadX, expect_of_trimStart hComma, hReadY,
      expect_of_trimStart hClose, bind, Except.bind, pure, Except.pure]

/-- A reader that does something to the state at its end. -/
theorem reads_closing_iff {reader : Reader σ} {close : σ → σ} {state next : σ}
    {text rest : List Char} :
    Reads (fun state text => do
        let (state, rest) ← reader state text
        return (close state, rest)) state text next rest ↔
      ∃ filled, Reads reader state text filled rest ∧ next = close filled := by
  simp only [Reads, bind, Except.bind, pure, Except.pure]
  cases hReader : reader state text with
  | error fault => simp
  | ok read =>
      obtain ⟨filled, left, hLeft⟩ := read
      simp only [Except.ok.injEq, Prod.mk.injEq, Subtype.mk.injEq]
      constructor
      · rintro ⟨shorter, rfl, rfl⟩
        exact ⟨filled, ⟨shorter, rfl, rfl⟩, rfl⟩
      · rintro ⟨_, ⟨shorter, rfl, rfl⟩, rfl⟩
        exact ⟨shorter, rfl, rfl⟩

theorem reads_readRing_iff {format : CoordinateText α} {shape next : MultiPolygon α}
    {text rest : List Char} :
    Reads (readRing format) shape text next rest ↔
      ∃ filled, Reads (readList (readPoint format)) shape text filled rest ∧
        next = filled.closeRing :=
  reads_closing_iff

theorem reads_readPolygon_iff {format : CoordinateText α} {shape next : MultiPolygon α}
    {text rest : List Char} :
    Reads (readPolygon format) shape text next rest ↔
      ∃ filled, Reads (readList (readRing format)) shape text filled rest ∧
        next = filled.closePolygon :=
  reads_closing_iff

/-- The reader takes no text that begins with a closing bracket. -/
def NeverCloses (item : Reader σ) : Prop :=
  ∀ {state next : σ} {text rest : List Char}, Reads item state text next rest →
    ∀ closed, trimStart text ≠ ']' :: closed

/-- Items begin as the first one of them does. -/
theorem NeverCloses.readItems {item : Reader σ} (hCloses : NeverCloses item) :
    NeverCloses (readItems item) := by
  intro state next text rest hRead
  obtain ⟨between, middle, hItem, -⟩ := reads_readItems_step.mp hRead
  exact hCloses hItem

theorem neverCloses_readPoint (format : CoordinateText α) : NeverCloses (readPoint format) := by
  intro state next text rest hRead closed
  obtain ⟨inner, -, -, -, -, -, hOpen, -⟩ := reads_readPoint_iff.mp hRead
  rw [hOpen]
  simp

theorem neverCloses_readList (item : Reader σ) : NeverCloses (readList item) := by
  intro state next text rest hRead closed
  obtain ⟨inner, hOpen, -⟩ := reads_readList_iff.mp hRead
  rw [hOpen]
  simp

theorem neverCloses_readRing (format : CoordinateText α) : NeverCloses (readRing format) := by
  intro state next text rest hRead
  obtain ⟨filled, hPoints, -⟩ := reads_readRing_iff.mp hRead
  exact neverCloses_readList _ hPoints

theorem neverCloses_readPolygon (format : CoordinateText α) : NeverCloses (readPolygon format) := by
  intro state next text rest hRead
  obtain ⟨filled, hRings, -⟩ := reads_readPolygon_iff.mp hRead
  exact neverCloses_readList _ hRings

/-- A text is read exactly if only blanks are left behind the list of its polygons. -/
theorem read_eq_ok_iff {format : CoordinateText α} {text : List Char} {shape : MultiPolygon α} :
    read format text = .ok shape ↔
      ∃ rest, Reads (readList (readPolygon format)) empty text shape rest ∧
        isAllBlank rest = true := by
  simp only [read, Reads, bind, Except.bind, pure, Except.pure]
  cases hReader : readList (readPolygon format) empty text with
  | error fault => simp
  | ok result =>
      obtain ⟨found, left, hLeft⟩ := result
      simp only [Except.ok.injEq, Prod.mk.injEq, Subtype.mk.injEq]
      constructor
      · intro hRead
        split at hRead
        · rename_i hBlank
          cases hRead
          exact ⟨left, ⟨hLeft, rfl, rfl⟩, hBlank⟩
        · cases hRead
      · rintro ⟨_, ⟨_, rfl, rfl⟩, hBlank⟩
        rw [if_pos hBlank]

/-- What is read is a multi-polygon with some polygons, so its parts end where they should. -/
theorem exists_ofPolygons_of_read {format : CoordinateText α} {text : List Char}
    {shape : MultiPolygon α} (hRead : read format text = .ok shape) :
    ∃ polygons, shape = ofPolygons polygons := by
  obtain ⟨rest, hPolygons, -⟩ := read_eq_ok_iff.mp hRead
  refine hPolygons.exists_foldl pushPolygon fun hPolygon => ?_
  obtain ⟨filled, hRings, rfl⟩ := reads_readPolygon_iff.mp hPolygon
  have hPushed := hRings.exists_foldl pushRing fun hRing => by
    obtain ⟨filled, hPoints, rfl⟩ := reads_readRing_iff.mp hRing
    have hPushed := hPoints.exists_foldl pushPoint fun hPoint => by
      obtain ⟨-, x, -, -, y, -, -, -, -, -, -, rfl⟩ := reads_readPoint_iff.mp hPoint
      exact ⟨⟨x, y⟩, rfl⟩
    obtain ⟨points, rfl⟩ := hPushed
    exact ⟨points, rfl⟩
  obtain ⟨rings, rfl⟩ := hPushed
  exact ⟨rings, rfl⟩

end DbClient.MultiPolygon
