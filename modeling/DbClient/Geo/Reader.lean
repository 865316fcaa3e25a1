import DbClient.Geo.Text
import DbClient.Text.Blank

/-! Reading multi-polygons. A reader takes a prefix off a text, puts what it denotes into the
multi-polygon read so far, and returns that together with the rest, which is shorter; so the
reading of a list ends. Blanks may stand before every token. -/

namespace DbClient.MultiPolygon

open Text

variable {α σ : Type}

/-- Why a text is no multi-polygon. -/
inductive ReadFault where
  /-- Something else was expected where the text has `rest`. -/
  | expected (token : String) (rest : List Char)
  /-- A coordinate is no number. -/
  | number (token : List Char)
  deriving DecidableEq, Repr

/-- What is left of a text once something has been taken off. -/
abbrev Rest (text : List Char) := { rest : List Char // rest.length < text.length }

/-- Takes a prefix off a text and adds what it denotes to what was read before. -/
abbrev Reader (σ : Type) := σ → (text : List Char) → Except ReadFault (σ × Rest text)

theorem length_trimStart_le (text : List Char) : (trimStart text).length ≤ text.length :=
  (List.dropWhile_sublist isBlank).length_le

/-- Takes blanks and a character off a text. -/
def eat? (c : Char) (text : List Char) : Option (Rest text) :=
  match h : trimStart text with
  | [] => none
  | head :: rest =>
    if head = c then
      some ⟨rest, by
        have := length_trimStart_le text
        rw [h, List.length_cons] at this
        exact this⟩
    else none

/-- Takes blanks and a character off a text that must have them. -/
def expect (c : Char) (text : List Char) : Except ReadFault (Rest text) :=
  match eat? c text with
  | some rest => .ok rest
  | none => .error (.expected ("'" ++ .ofList [c] ++ "'") (trimStart text))

/-- Reads the elements of a list, behind its opening bracket, up to the closing one. There is
at least one element. -/
def readItems (item : Reader σ) (state : σ) (text : List Char) :
    Except ReadFault (σ × Rest text) := do
  let (state, ⟨rest, hItem⟩) ← item state text
  match eat? ']' rest with
  | some ⟨rest, hClose⟩ => return (state, ⟨rest, by omega⟩)
  | none =>
    let ⟨rest, hComma⟩ ← expect ',' rest
    let (state, ⟨rest, hOthers⟩) ← readItems item state rest
    return (state, ⟨rest, by omega⟩)
termination_by text.length

/-- Reads a list in brackets with commas between its elements. -/
def readList (item : Reader σ) : Reader σ := fun state text => do
  let ⟨rest, hOpen⟩ ← expect '[' text
  match eat? ']' rest with
  | some ⟨rest, hClose⟩ => return (state, ⟨rest, by omega⟩)
  | none =>
    let (state, ⟨rest, hItems⟩) ← readItems item state rest
    return (state, ⟨rest, by omega⟩)

def endsNumber (c : Char) : Bool :=
  c = ',' || c = ')'

/-- Reads a coordinate, which extends to the next comma or closing parenthesis. -/
def readNumber (format : CoordinateText α) (text : List Char) :
    Except ReadFault (α × { rest : List Char // rest.length ≤ text.length }) :=
  let start := trimStart text
  let token := trim (start.takeWhile (!endsNumber ·))
  match format.read? token with
  | none => .error (.number token)
  | some value =>
    .ok (value, ⟨start.dropWhile (!endsNumber ·),
      Nat.le_trans (List.dropWhile_sublist _).length_le (length_trimStart_le text)⟩)

def readPoint (format : CoordinateText α) : Reader (MultiPolygon α) := fun shape text => do
  let ⟨rest, hOpen⟩ ← expect '(' text
  let (x, ⟨rest, hX⟩) ← readNumber format rest
  let ⟨rest, hComma⟩ ← expect ',' rest
  let (y, ⟨rest, hY⟩) ← readNumber format rest
  let ⟨rest, hClose⟩ ← expect ')' rest
  return (shape.pushPoint ⟨x, y⟩, ⟨rest, by omega⟩)

def readRing (format : CoordinateText α) : Reader (MultiPolygon α) := fun shape text => do
  let (shape, rest) ← readList (readPoint format) shape text
  return (shape.closeRing, rest)

def readPolygon (format : CoordinateText α) : Reader (MultiPolygon α) := fun shape text => do
  let (shape, rest) ← readList (readRing format) shape text
  return (shape.closePolygon, rest)

def read (format : CoordinateText α) (text : List Char) : Except ReadFault (MultiPolygon α) := do
  let (shape, ⟨rest, _⟩) ← readList (readPolygon format) empty text
  if isAllBlank rest then return shape
  else .error (.expected "end of input" (trimStart rest))

end DbClient.MultiPolygon
