import DbClient.Proofs.Fault
import DbClient.Proofs.Geo.Grammar

/-! Where readers of multi-polygons stop, for each reader in terms of what it takes off before it
stops. -/

namespace DbClient.MultiPolygon

open Text

variable {α σ : Type}

/-- The reader stops in front of `rest`, because it expected something else there. -/
def Stops (reader : Reader σ) (state : σ) (text : List Char) (token : String)
    (rest : List Char) : Prop :=
  reader state text = .error (.expected token rest)

/-- Behind its blanks, where `rest` starts, the text does not have the character. -/
structure Lacks (c : Char) (text : List Char) (token : String) (rest : List Char) : Prop where
  absent : ∀ behind, trimStart text ≠ c :: behind
  token_eq : "'" ++ .ofList [c] ++ "'" = token
  rest_eq : trimStart text = rest

/-- A reader that expects a character stops exactly where it is lacking. -/
theorem expect_eq_error_iff {c : Char} {text : List Char} {token : String} {rest : List Char} :
    expect c text = .error (.expected token rest) ↔ Lacks c text token rest := by
  unfold expect
  cases hEat : eat? c text with
  | some behind =>
      have hText := eat?_eq_some_iff.mp hEat
      constructor
      · intro hError
        cases hError
      · intro hLacks
        exact absurd hText (hLacks.absent behind)
  | none =>
      have hAbsent := eat?_eq_none_iff.mp hEat
      constructor
      · intro hError
        cases hError
        exact ⟨hAbsent, rfl, rfl⟩
      · rintro ⟨-, rfl, rfl⟩
        rfl

/-- The loop over items stops in an item, behind one, or behind a comma. -/
theorem stops_readItems_iff {item : Reader σ} {state : σ} {text rest : List Char}
    {token : String} :
    Stops (readItems item) state text token rest ↔
      Stops item state text token rest ∨
        ∃ between middle, Reads item state text between middle ∧
          ((∀ closed, trimStart middle ≠ ']' :: closed) ∧ Lacks ',' middle token rest ∨
            ∃ behind, trimStart middle = ',' :: behind ∧
              Stops (readItems item) between behind token rest) := by
  rw [Stops, readItems, bind_eq_error_iff]
  refine or_congr Iff.rfl ?_
  constructor
  · rintro ⟨⟨between, middle, hMiddle⟩, hItem, hRest⟩
    refine ⟨between, middle, ⟨hMiddle, hItem⟩, ?_⟩
    dsimp only at hRest
    cases hClose : eat? ']' middle with
    | some closed =>
        rw [hClose] at hRest
        cases hRest
    | none =>
        rw [hClose] at hRest
        rcases bind_eq_error_iff.mp hRest with hComma | ⟨⟨behind, hBehind⟩, hComma, hOthers⟩
        · exact .inl ⟨eat?_eq_none_iff.mp hClose, expect_eq_error_iff.mp hComma⟩
        · rcases bind_eq_error_iff.mp hOthers with hOthers | ⟨others, -, hPure⟩
          · exact .inr ⟨behind, expect_eq_ok_iff.mp hComma, hOthers⟩
          · cases hPure
  · rintro ⟨between, middle, ⟨hMiddle, hItem⟩, hRest⟩
    refine ⟨_, hItem, ?_⟩
    dsimp only
    rcases hRest with ⟨hOpen, hComma⟩ | ⟨behind, hComma, hOthers⟩
    · rw [eat?_eq_none_iff.mpr hOpen]
      exact bind_eq_error_iff.mpr (.inl (expect_eq_error_iff.mpr hComma))
    · have hOpen : eat? ']' middle = none := by
        rw [eat?_eq_none_iff, hComma]
        simp
      rw [hOpen]
      exact bind_eq_error_iff.mpr (.inr ⟨_, expect_of_trimStart hComma,
        bind_eq_error_iff.mpr (.inl hOthers)⟩)

/-- A list stops at its opening bracket or in the loop over its items. -/
theorem stops_readList_iff {item : Reader σ} {state : σ} {text rest : List Char}
    {token : String} :
    Stops (readList item) state text token rest ↔
      Lacks '[' text token rest ∨
        ∃ inner, trimStart text = '[' :: inner ∧ (∀ closed, trimStart inner ≠ ']' :: closed) ∧
          Stops (readItems item) state inner token rest := by
  rw [Stops, readList, bind_eq_error_iff]
  refine or_congr expect_eq_error_iff ?_
  constructor
  · rintro ⟨⟨inner, hInner⟩, hOpen, hRest⟩
    refine ⟨inner, expect_eq_ok_iff.mp hOpen, ?_⟩
    dsimp only at hRest
    cases hClose : eat? ']' inner with
    | some closed =>
        rw [hClose] at hRest
        cases hRest
    | none =>
        rw [hClose] at hRest
        rcases bind_eq_error_iff.mp hRest with hItems | ⟨items, -, hPure⟩
        · exact ⟨eat?_eq_none_iff.mp hClose, hItems⟩
        · cases hPure
  · rintro ⟨inner, hOpen, hClose, hItems⟩
    refine ⟨_, expect_of_trimStart hOpen, ?_⟩
    dsimp only
    rw [eat?_eq_none_iff.mpr hClose]
    exact bind_eq_error_iff.mpr (.inl hItems)

/-- A coordinate that is no number is a fault of its own. -/
theorem readNumber_ne_expected {format : CoordinateText α} {text rest : List Char}
    {token : String} : readNumber format text ≠ .error (.expected token rest) := by
  unfold readNumber
  dsimp only
  split <;> simp

/-- A point stops at one of its three delimiters. -/
theorem stops_readPoint_iff {format : CoordinateText α} {shape : MultiPolygon α}
    {text rest : List Char} {token : String} :
    Stops (readPoint format) shape text token rest ↔
      Lacks '(' text token rest ∨
        ∃ inner x middle, trimStart text = '(' :: inner ∧ ReadsNumber format inner x middle ∧
          (Lacks ',' middle token rest ∨
            ∃ behind y last, trimStart middle = ',' :: behind ∧ ReadsNumber format behind y last ∧
              Lacks ')' last token rest) := by
  rw [Stops, readPoint, bind_eq_error_iff]
  refine or_congr expect_eq_error_iff ?_
  constructor
  · rintro ⟨⟨inner, hInner⟩, hOpen, hRest⟩
    rcases bind_eq_error_iff.mp hRest with hX | ⟨⟨x, middle, hMiddle⟩, hX, hRest⟩
    · exact absurd hX readNumber_ne_expected
    · refine ⟨inner, x, middle, expect_eq_ok_iff.mp hOpen, readNumber_eq_ok_iff.mp hX, ?_⟩
      rcases bind_eq_error_iff.mp hRest with hComma | ⟨⟨behind, hBehind⟩, hComma, hRest⟩
      · exact .inl (expect_eq_error_iff.mp hComma)
      · rcases bind_eq_error_iff.mp hRest with hY | ⟨⟨y, last, hLast⟩, hY, hRest⟩
        · exact absurd hY readNumber_ne_expected
        · rcases bind_eq_error_iff.mp hRest with hClose | ⟨closed, -, hPure⟩
          · exact .inr ⟨behind, y, last, expect_eq_ok_iff.mp hComma, readNumber_eq_ok_iff.mp hY,
              expect_eq_error_iff.mp hClose⟩
          · cases hPure
  · rintro ⟨inner, x, middle, hOpen, hX, hRest⟩
    have hReadX : readNumber format inner = .ok (x, ⟨middle, hX.length_le⟩) :=
      readNumber_eq_ok_iff.mpr hX
    refine ⟨_, expect_of_trimStart hOpen, bind_eq_error_iff.mpr (.inr ⟨_, hReadX, ?_⟩)⟩
    rcases hRest with hComma | ⟨behind, y, last, hComma, hY, hClose⟩
    · exact bind_eq_error_iff.mpr (.inl (expect_eq_error_iff.mpr hComma))
    · have hReadY : readNumber format behind = .ok (y, ⟨last, hY.length_le⟩) :=
        readNumber_eq_ok_iff.mpr hY
      refine bind_eq_error_iff.mpr (.inr ⟨_, expect_of_trimStart hComma, ?_⟩)
      refine bind_eq_error_iff.mpr (.inr ⟨_, hReadY, ?_⟩)
      exact bind_eq_error_iff.mpr (.inl (expect_eq_error_iff.mpr hClose))

theorem stops_closing_iff {reader : Reader σ} {close : σ → σ} {state : σ}
    {text rest : List Char} {token : String} :
    Stops (fun state text => do
        let (state, rest) ← reader state text
        return (close state, rest)) state text token rest ↔
      Stops reader state text token rest := by
  rw [Stops, bind_eq_error_iff]
  constructor
  · rintro (hReader | ⟨_, -, hPure⟩)
    · exact hReader
    · cases hPure
  · exact .inl

/-- Reading stops in the outermost list or behind it. -/
theorem read_eq_error_iff {format : CoordinateText α} {text rest : List Char} {token : String} :
    read format text = .error (.expected token rest) ↔
      Stops (readList (readPolygon format)) empty text token rest ∨
        ∃ shape left, Reads (readList (readPolygon format)) empty text shape left ∧
          isAllBlank left = false ∧ "end of input" = token ∧ trimStart left = rest := by
  rw [read, bind_eq_error_iff]
  refine or_congr Iff.rfl ?_
  constructor
  · rintro ⟨⟨shape, left, hLeft⟩, hRead, hRest⟩
    dsimp only at hRest
    split at hRest
    · cases hRest
    · rename_i hBlank
      cases hRest
      exact ⟨shape, left, ⟨hLeft, hRead⟩, Bool.eq_false_iff.mpr hBlank, rfl, rfl⟩
  · rintro ⟨shape, left, ⟨hLeft, hRead⟩, hBlank, rfl, rfl⟩
    refine ⟨_, hRead, ?_⟩
    dsimp only
    rw [if_neg (Bool.eq_false_iff.mp hBlank)]

end DbClient.MultiPolygon
