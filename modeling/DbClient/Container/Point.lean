import DbClient.Geo.Float
import DbClient.Scalar.Primitives

/-! The point rule: data that are no whole multi-polygon denote a point, and they do so only if
they are exactly two coordinates. The rule holds for every type whose elements can be read as
coordinates. -/

namespace DbClient

/-- A type whose elements may be read as coordinates. -/
class Coordinate (α : Type) where
  /-- The coordinate that an element denotes. -/
  read : α → Except Error Float
  /-- The text of an element in messages. -/
  text : α → String

/-- The number that a text denotes, without the blanks around it. -/
def readCoordinate (text : String) : Except Error Float :=
  match Number.readFloat? (Text.trim text.toList) with
  | some x => .ok x
  | none => .error (.numberFormat text)

/-- Numeric scalars are coordinates as they are, all others through their text. -/
instance : Coordinate Scalar where
  read scalar := match scalar.float? with
    | some x => .ok x
    | none => readCoordinate scalar.toText
  text := Scalar.toText

/-- Numbers and strings are coordinates. -/
instance : Coordinate Json where
  read
    | .integer value => .ok (Number.floatOfInt value)
    | .float value => .ok value
    | .string text => readCoordinate text
    | document => .error (.numberFormat document.toText)
  text := Json.toText

/-- The texts of elements in brackets. -/
def coordinatesText {α : Type} [Coordinate α] (items : List α) : String :=
  Text.bracketed (items.map Coordinate.text)

/-- The point of exactly two coordinates, of which the first one is read first. -/
def pointOf {α : Type} [Coordinate α] : List α → Except Error (Point Float)
  | [first, second] => do
    let x ← Coordinate.read first
    let y ← Coordinate.read second
    return ⟨x, y⟩
  | items => .error (.invalidPoint (coordinatesText items))

/-- The point of exactly two primitive elements. -/
def Primitives.point (values : Primitives) : Except Error (Point Float) :=
  match values.toFloats with
  | [x, y] => .ok ⟨x, y⟩
  | _ => .error (.invalidPoint values.toText)

/-- A forward-only cursor over elements, which ends where there is no element. -/
structure Cursor where
  element? : Nat → Option Scalar
  /-- The number of elements that were taken. -/
  position : Nat

namespace Cursor

/-- The cursor before the elements of a list. -/
def ofList (items : List Scalar) : Cursor := ⟨fun index => items[index]?, 0⟩

/-- The cursor before all integers from a first one on. -/
def ofIntegers (first : Int32) : Cursor := ⟨fun index => some (.int (first + .ofNat index)), 0⟩

/-- Takes at most so many elements. -/
def take : Nat → Cursor → List Scalar × Cursor
  | 0, cursor => ([], cursor)
  | count + 1, cursor =>
    match cursor.element? cursor.position with
    | none => ([], cursor)
    | some item =>
      let (items, rest) := take count { cursor with position := cursor.position + 1 }
      (item :: items, rest)

/-- The point of exactly two elements. At most three elements are taken, the third one so that
it can be shown. -/
def point (cursor : Cursor) : Except Error (Point Float) × Cursor :=
  let (taken, rest) := cursor.take 3
  if taken.length = 3 then
    (.error (.invalidPoint (Text.bracketed (taken.map Scalar.toText ++ ["..."]))), rest)
  else (pointOf taken, rest)

end Cursor

namespace MultiPolygon

/-- The elements of an array of the given parts. -/
def elements (parts : String) (document : Json) : Except Error (List Json) :=
  match document.items? with
  | some items => .ok items
  | none =>
    .error (.invalidInput ("Expected an array of " ++ parts ++ ", got " ++ document.toText))

/-- The point that a document denotes. -/
def pointOfJson (document : Json) : Except Error (Point Float) := do
  match ← elements "coordinates" document with
  | [first, second] =>
    let x ← Coordinate.read first
    let y ← Coordinate.read second
    return ⟨x, y⟩
  | _ => .error (.invalidPoint document.toText)

/-- The ring that a document denotes. -/
def ringOfJson (document : Json) : Except Error (List (Point Float)) := do
  (← elements "points" document).mapM pointOfJson

/-- The polygon that a document denotes. -/
def polygonOfJson (document : Json) : Except Error (List (List (Point Float))) := do
  (← elements "rings" document).mapM ringOfJson

/-- The multi-polygon that an array denotes: a whole one if all elements are arrays and there
is any, else a single point. -/
def ofJson (items : List Json) : Except Error Shape :=
  if !items.isEmpty && items.all Json.isArray then ofPolygons <$> items.mapM polygonOfJson
  else ofPoint <$> pointOf items

end MultiPolygon

end DbClient
