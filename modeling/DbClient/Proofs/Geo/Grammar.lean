import DbClient.Geo.Float
import DbClient.Proofs.Geo.Nested
import DbClient.Proofs.Geo.Reading
import Mathlib.Data.List.TakeWhile

/-! The grammar of multi-polygon texts, which says what a whole text denotes without saying how it
is read. Main statement: `parse_eq_ok_iff_isText`, by which exactly the texts of the grammar are
read, and as what they denote. -/

namespace DbClient.MultiPolygon

open Text

variable {α β σ : Type}

/-- A coordinate is written without delimiters. Blanks around its numeral do not count. -/
structure IsCoordinateText (format : CoordinateText α) (token : List Char) (x : α) : Prop where
  undelimited : ∀ c ∈ token, endsNumber c = false
  denotes : format.read? (trim token) = some x

/-- A point is written as two coordinates in parentheses, with a comma between them. -/
inductive IsPointText (format : CoordinateText α) : List Char → Point α → Prop where
  | pair {first second : List Char} {x y : α} (hFirst : IsCoordinateText format first x)
      (hSecond : IsCoordinateText format second y) :
      IsPointText format ('(' :: (first ++ ',' :: (second ++ [')']))) ⟨x, y⟩

/-- Any number of further elements of a list, each behind a comma. Blanks may stand on both sides
of the comma. -/
inductive AreFurtherItems (Item : List Char → β → Prop) : List Char → List β → Prop where
  | none : AreFurtherItems Item [] []
  | more {before after piece others : List Char} {value : β} {values : List β}
      (hBefore : isAllBlank before = true) (hAfter : isAllBlank after = true)
      (hItem : Item piece value) (hOthers : AreFurtherItems Item others values) :
      AreFurtherItems Item (before ++ ',' :: (after ++ (piece ++ others))) (value :: values)

/-- A list is written in brackets. Blanks may stand behind the opening bracket and in front of
the closing one. -/
inductive IsListText (Item : List Char → β → Prop) : List Char → List β → Prop where
  | empty {blanks : List Char} (hBlanks : isAllBlank blanks = true) :
      IsListText Item ('[' :: (blanks ++ [']'])) []
  | items {leading piece others trailing : List Char} {value : β} {values : List β}
      (hLeading : isAllBlank leading = true) (hItem : Item piece value)
      (hOthers : AreFurtherItems Item others values) (hTrailing : isAllBlank trailing = true) :
      IsListText Item ('[' :: (leading ++ (piece ++ (others ++ (trailing ++ [']'])))))
        (value :: values)

/-- A text is a list of polygons, which are lists of rings, which are lists of points. Blanks may
stand around it. -/
inductive IsText (format : CoordinateText α) : List Char → List (List (List (Point α))) → Prop where
  | whole {before piece after : List Char} {polygons : List (List (List (Point α)))}
      (hBefore : isAllBlank before = true)
      (hPolygons : IsListText (IsListText (IsListText (IsPointText format))) piece polygons)
      (hAfter : isAllBlank after = true) : IsText format (before ++ (piece ++ after)) polygons

theorem exists_blanks (text : List Char) :
    ∃ blanks, isAllBlank blanks = true ∧ text = blanks ++ trimStart text := by
  refine ⟨text.takeWhile isBlank, ?_, List.takeWhile_append_dropWhile.symm⟩
  rw [isAllBlank, List.all_eq_true]
  exact fun c hc => List.mem_takeWhile_imp hc

theorem trimStart_eq_nil_iff {text : List Char} : trimStart text = [] ↔ isAllBlank text = true := by
  rw [trimStart, List.dropWhile_eq_nil_iff, isAllBlank, List.all_eq_true]

/-- What stands in front of the first character that is not blank. -/
theorem trimStart_eq_cons_iff {c : Char} (hc : isBlank c = false) {text rest : List Char} :
    trimStart text = c :: rest ↔
      ∃ blanks, isAllBlank blanks = true ∧ text = blanks ++ c :: rest := by
  constructor
  · intro hText
    obtain ⟨blanks, hBlanks, hSplit⟩ := exists_blanks text
    rw [hText] at hSplit
    exact ⟨blanks, hBlanks, hSplit⟩
  · rintro ⟨blanks, hBlanks, rfl⟩
    rw [trimStart_append hBlanks, trimStart_cons hc]

/-- A reader takes blanks and a text of the grammar off, and puts what that text denotes into the
state. -/
def Follows (reader : Reader σ) (Item : List Char → β → Prop) (push : σ → β → σ) : Prop :=
  ∀ (state next : σ) (text rest : List Char), Reads reader state text next rest ↔
    ∃ blanks piece value, isAllBlank blanks = true ∧ Item piece value ∧
      text = blanks ++ (piece ++ rest) ∧ next = push state value

/-- A reader that follows a grammar reads every piece in it, also behind blanks. -/
theorem Follows.reads {reader : Reader σ} {Item : List Char → β → Prop} {push : σ → β → σ}
    (hReader : Follows reader Item push) {blanks piece : List Char} {value : β}
    (hBlanks : isAllBlank blanks = true) (hPiece : Item piece value) (state : σ)
    (rest : List Char) : Reads reader state (blanks ++ (piece ++ rest)) (push state value) rest :=
  (hReader _ _ _ _).mpr ⟨blanks, piece, value, hBlanks, hPiece, rfl, rfl⟩

/-- The elements of a list up to the closing bracket are one and any number of further ones. -/
theorem Follows.readsItems_iff {item : Reader σ} {Item : List Char → β → Prop} {push : σ → β → σ}
    (hItem : Follows item Item push) {state next : σ} {text rest : List Char} :
    ReadsItems item state text next rest ↔
      ∃ leading piece value others values trailing, isAllBlank leading = true ∧ Item piece value ∧
        AreFurtherItems Item others values ∧ isAllBlank trailing = true ∧
        text = leading ++ (piece ++ (others ++ (trailing ++ ']' :: rest))) ∧
        next = (value :: values).foldl push state := by
  constructor
  · intro hRead
    induction hRead with
    | last hLast hClose =>
        obtain ⟨leading, piece, value, hLeading, hPiece, rfl, rfl⟩ := (hItem _ _ _ _).mp hLast
        obtain ⟨trailing, hTrailing, rfl⟩ := (trimStart_eq_cons_iff rfl).mp hClose
        exact ⟨leading, piece, value, [], [], trailing, hLeading, hPiece, .none, hTrailing, rfl,
          rfl⟩
    | more hFirst hComma hOthers ih =>
        obtain ⟨leading, piece, value, hLeading, hPiece, rfl, rfl⟩ := (hItem _ _ _ _).mp hFirst
        obtain ⟨before, hBefore, rfl⟩ := (trimStart_eq_cons_iff rfl).mp hComma
        obtain ⟨after, second, other, others, values, trailing, hAfter, hSecond, hMore, hTrailing,
          rfl, rfl⟩ := ih
        refine ⟨leading, piece, value, _, _, trailing, hLeading, hPiece,
          .more hBefore hAfter hSecond hMore, hTrailing, ?_, rfl⟩
        simp
  · rintro ⟨leading, piece, value, others, values, trailing, hLeading, hPiece, hOthers, hTrailing,
      rfl, rfl⟩
    induction hOthers generalizing state leading piece value with
    | none =>
        have hFirst := hItem.reads hLeading hPiece state (trailing ++ ']' :: rest)
        exact .last hFirst ((trimStart_eq_cons_iff rfl).mpr ⟨trailing, hTrailing, rfl⟩)
    | @more before after second others other values hBefore hAfter hSecond hOthers ih =>
        have hText : before ++ ',' :: (after ++ (second ++ others)) ++ (trailing ++ ']' :: rest) =
            before ++ ',' :: (after ++ (second ++ (others ++ (trailing ++ ']' :: rest)))) := by simp
        rw [hText]
        exact .more (hItem.reads hLeading hPiece state _)
          ((trimStart_eq_cons_iff rfl).mpr ⟨before, hBefore, rfl⟩)
          (ih after second other hAfter hSecond)

/-- A reader of lists follows the grammar of lists if its reader of elements follows that of the
elements. -/
theorem Follows.readList {item : Reader σ} {Item : List Char → β → Prop} {push : σ → β → σ}
    (hItem : Follows item Item push) (hCloses : NeverCloses item) :
    Follows (readList item) (IsListText Item) (List.foldl push) := by
  intro state next text rest
  rw [reads_readList_iff]
  constructor
  · rintro ⟨inner, hOpen, hRest⟩
    obtain ⟨blanks, hBlanks, rfl⟩ := (trimStart_eq_cons_iff rfl).mp hOpen
    rcases hRest with ⟨hClose, rfl⟩ | ⟨-, hItems⟩
    · obtain ⟨between, hBetween, rfl⟩ := (trimStart_eq_cons_iff rfl).mp hClose
      exact ⟨blanks, _, [], hBlanks, .empty hBetween, by simp, rfl⟩
    · obtain ⟨leading, piece, value, others, values, trailing, hLeading, hPiece, hOthers, hTrailing,
        rfl, rfl⟩ := hItem.readsItems_iff.mp hItems
      exact ⟨blanks, _, _, hBlanks, .items hLeading hPiece hOthers hTrailing, by simp, rfl⟩
  · rintro ⟨blanks, piece, values, hBlanks, hPiece, rfl, rfl⟩
    cases hPiece with
    | @empty between hBetween =>
        refine ⟨between ++ ']' :: rest,
          (trimStart_eq_cons_iff rfl).mpr ⟨blanks, hBlanks, by simp⟩, .inl ⟨?_, rfl⟩⟩
        exact (trimStart_eq_cons_iff rfl).mpr ⟨between, hBetween, rfl⟩
    | @items leading first others trailing value values hLeading hFirst hOthers hTrailing =>
        have hItems : ReadsItems item state
            (leading ++ (first ++ (others ++ (trailing ++ ']' :: rest))))
            ((value :: values).foldl push state) rest :=
          hItem.readsItems_iff.mpr ⟨leading, first, value, others, values, trailing, hLeading,
            hFirst, hOthers, hTrailing, rfl, rfl⟩
        exact ⟨_, (trimStart_eq_cons_iff rfl).mpr ⟨blanks, hBlanks, by simp⟩,
          .inr ⟨hCloses.readItems (reads_readItems_iff.mpr hItems), hItems⟩⟩

theorem isBlank_of_endsNumber {c : Char} (hc : endsNumber c = true) : isBlank c = false := by
  simp only [endsNumber, Bool.or_eq_true, decide_eq_true_eq] at hc
  rcases hc with rfl | rfl <;> decide

/-- A coordinate is read off a text of the grammar, up to a delimiter or the end. -/
theorem ReadsNumber.exists_text {format : CoordinateText α} {text rest : List Char} {x : α}
    (hRead : ReadsNumber format text x rest) :
    ∃ token, IsCoordinateText format token x ∧ text = token ++ rest ∧
      ∀ c behind, rest = c :: behind → endsNumber c = true := by
  obtain ⟨hDenotes, rfl⟩ := hRead
  obtain ⟨blanks, hBlanks, hText⟩ := exists_blanks text
  refine ⟨blanks ++ (trimStart text).takeWhile (!endsNumber ·), ⟨?_, ?_⟩, ?_, ?_⟩
  · intro c hc
    rcases List.mem_append.mp hc with hBlank | hNumber
    · rw [isAllBlank, List.all_eq_true] at hBlanks
      by_contra hc
      have hPlain := isBlank_of_endsNumber (Bool.of_not_eq_false hc)
      rw [hBlanks c hBlank] at hPlain
      cases hPlain
    · simpa using List.mem_takeWhile_imp hNumber
  · rw [trim, trimStart_append hBlanks]
    exact hDenotes
  · rw [List.append_assoc, List.takeWhile_append_dropWhile]
    exact hText
  · intro c behind hRest
    have hHead := List.head?_dropWhile_not (!endsNumber ·) (trimStart text)
    rw [hRest] at hHead
    simpa using hHead

/-- A delimiter ends the coordinate in front of it. -/
theorem IsCoordinateText.readsNumber {format : CoordinateText α} {token : List Char} {x : α}
    (hToken : IsCoordinateText format token x) {delimiter : Char}
    (hEnds : endsNumber delimiter = true) (behind : List Char) :
    ReadsNumber format (token ++ delimiter :: behind) x (delimiter :: behind) := by
  have hStart := trimStart_append_cons (isBlank_of_endsNumber hEnds) token behind
  have hPlain : ∀ c ∈ trimStart token, (!endsNumber c) = true := by
    intro c hc
    simp [hToken.undelimited c ((List.dropWhile_sublist isBlank).mem hc)]
  constructor
  · rw [hStart, List.takeWhile_append_of_pos hPlain, List.takeWhile_cons_of_neg (by simp [hEnds]),
      List.append_nil, trim_trimStart]
    exact hToken.denotes
  · rw [hStart, List.dropWhile_append_of_pos hPlain, List.dropWhile_cons_of_neg (by simp [hEnds])]

/-- A coordinate reaches up to the delimiter behind it. -/
theorem readsNumber_delimited_iff {format : CoordinateText α} {delimiter : Char}
    (hEnds : endsNumber delimiter = true) {text behind : List Char} {x : α} :
    (∃ middle, ReadsNumber format text x middle ∧ trimStart middle = delimiter :: behind) ↔
      ∃ token, IsCoordinateText format token x ∧ text = token ++ delimiter :: behind := by
  constructor
  · rintro ⟨middle, hRead, hDelimiter⟩
    obtain ⟨token, hToken, rfl, hStop⟩ := hRead.exists_text
    cases middle with
    | nil => cases hDelimiter
    | cons c rest =>
        rw [trimStart_cons (isBlank_of_endsNumber (hStop c rest rfl))] at hDelimiter
        exact ⟨token, hToken, by rw [hDelimiter]⟩
  · rintro ⟨token, hToken, rfl⟩
    exact ⟨_, hToken.readsNumber hEnds behind, trimStart_cons (isBlank_of_endsNumber hEnds) behind⟩

/-- Points are read as their grammar says. -/
theorem follows_readPoint (format : CoordinateText α) :
    Follows (readPoint format) (IsPointText format) pushPoint := by
  intro shape next text rest
  rw [reads_readPoint_iff]
  constructor
  · rintro ⟨inner, x, middle, behind, y, last, hOpen, hX, hComma, hY, hClose, rfl⟩
    obtain ⟨blanks, hBlanks, rfl⟩ := (trimStart_eq_cons_iff rfl).mp hOpen
    obtain ⟨first, hFirst, rfl⟩ := (readsNumber_delimited_iff rfl).mp ⟨middle, hX, hComma⟩
    obtain ⟨second, hSecond, rfl⟩ := (readsNumber_delimited_iff rfl).mp ⟨last, hY, hClose⟩
    exact ⟨blanks, _, ⟨x, y⟩, hBlanks, .pair hFirst hSecond, by simp, rfl⟩
  · rintro ⟨blanks, piece, point, hBlanks, hPiece, rfl, rfl⟩
    cases hPiece with
    | @pair first second x y hFirst hSecond =>
        have hSecondRead : ∃ last, ReadsNumber format (second ++ ')' :: rest) y last ∧
            trimStart last = ')' :: rest :=
          (readsNumber_delimited_iff rfl).mpr ⟨second, hSecond, rfl⟩
        have hFirstRead : ∃ middle,
            ReadsNumber format (first ++ ',' :: (second ++ ')' :: rest)) x middle ∧
              trimStart middle = ',' :: (second ++ ')' :: rest) :=
          (readsNumber_delimited_iff rfl).mpr ⟨first, hFirst, rfl⟩
        obtain ⟨last, hY, hClose⟩ := hSecondRead
        obtain ⟨middle, hX, hComma⟩ := hFirstRead
        have hOpen : trimStart (blanks ++ ('(' :: (first ++ ',' :: (second ++ [')'])) ++ rest)) =
            '(' :: (first ++ ',' :: (second ++ ')' :: rest)) :=
          (trimStart_eq_cons_iff rfl).mpr ⟨blanks, hBlanks, by simp⟩
        exact ⟨_, x, middle, _, y, last, hOpen, hX, hComma, hY, hClose, rfl⟩

/-- A reader that does something to the state at its end follows the same grammar. -/
theorem Follows.closing {reader : Reader σ} {Item : List Char → β → Prop} {push : σ → β → σ}
    (hReader : Follows reader Item push) (close : σ → σ) :
    Follows (fun state text => do
        let (state, rest) ← reader state text
        return (close state, rest)) Item (fun state value => close (push state value)) := by
  intro state next text rest
  rw [reads_closing_iff]
  constructor
  · rintro ⟨filled, hRead, rfl⟩
    obtain ⟨blanks, piece, value, hBlanks, hPiece, hText, rfl⟩ := (hReader _ _ _ _).mp hRead
    exact ⟨blanks, piece, value, hBlanks, hPiece, hText, rfl⟩
  · rintro ⟨blanks, piece, value, hBlanks, hPiece, rfl, rfl⟩
    exact ⟨_, hReader.reads hBlanks hPiece state rest, rfl⟩

theorem follows_readRing (format : CoordinateText α) :
    Follows (readRing format) (IsListText (IsPointText format)) pushRing :=
  ((follows_readPoint format).readList (neverCloses_readPoint format)).closing closeRing

theorem follows_readPolygon (format : CoordinateText α) :
    Follows (readPolygon format) (IsListText (IsListText (IsPointText format))) pushPolygon :=
  ((follows_readRing format).readList (neverCloses_readRing format)).closing closePolygon

/-- A text is read exactly if the grammar has it, and as the polygons that it denotes there. -/
theorem read_eq_ok_iff_isText {format : CoordinateText α} {text : List Char}
    {shape : MultiPolygon α} :
    read format text = .ok shape ↔
      ∃ polygons, IsText format text polygons ∧ shape = ofPolygons polygons := by
  have hFollows := (follows_readPolygon format).readList (neverCloses_readPolygon format)
  rw [read_eq_ok_iff]
  constructor
  · rintro ⟨after, hRead, hAfter⟩
    obtain ⟨before, piece, polygons, hBefore, hPiece, rfl, rfl⟩ := (hFollows _ _ _ _).mp hRead
    exact ⟨polygons, .whole hBefore hPiece hAfter, rfl⟩
  · rintro ⟨polygons, hText, rfl⟩
    cases hText with
    | @whole before piece after polygons hBefore hPolygons hAfter =>
        exact ⟨after, hFollows.reads hBefore hPolygons empty after, hAfter⟩

/-- Exactly the texts of the grammar are read, and what is read has the nested lists that the text
denotes there. -/
theorem parse_eq_ok_iff_isText (text : String) (shape : Shape) :
    parse text = .ok shape ↔
      ∃ polygons, IsText .binary64 text.toList polygons ∧ shape = ofPolygons polygons ∧
        shape.toNested = polygons.map (List.map (List.map Point.toList)) := by
  have hRead : parse text = .ok shape ↔ read .binary64 text.toList = .ok shape := by
    rw [parse]
    cases read .binary64 text.toList <;> simp [Except.mapError]
  rw [hRead, read_eq_ok_iff_isText]
  constructor
  · rintro ⟨polygons, hText, rfl⟩
    exact ⟨polygons, hText, rfl, by rw [toNested, polygons_ofPolygons]⟩
  · rintro ⟨polygons, hText, hShape, -⟩
    exact ⟨polygons, hText, hShape⟩

/-- Commas without an element, a missing bracket, a third coordinate and a text behind the list. -/
example : ∀ text ∈ ["[[],]", "[,[]]", "[[]", "[[[(1,2,3)]]]", "[] []"],
    (parse text).toOption = none := by decide +kernel

end DbClient.MultiPolygon
