import DbClient.Error
import DbClient.Geo.Reader
import DbClient.Json.Basic
import DbClient.Text.Bytes

/-! Multi-polygons with floating-point coordinates: their text, their errors and their
documents. -/

namespace DbClient

/-- A multi-polygon with coordinates of 64 bits. -/
abbrev Shape := MultiPolygon Float

/-- Coordinates are written by their shortest digits. -/
def CoordinateText.binary64 : CoordinateText Float := ⟨Number.floatText, Number.readFloat?⟩

/-- A document with a number for a finite coordinate and `null` for any other. -/
def Json.ofFloat (x : Float) : Json :=
  if x.isFinite then .float x else .null

def Number.floatsText (numbers : List Float) : String :=
  Text.bracketed (numbers.map fun x => .ofList (Number.floatText x))

namespace MultiPolygon

/-- The error for a fault in a text. The place of a fault is given in bytes. -/
def ReadFault.toError (text : List Char) : ReadFault → Error
  | expected token rest =>
    .invalidInput ("Expected " ++ token ++ " at offset " ++
      .ofList (Number.natText (Text.byteSize text - Text.byteSize rest)) ++
      " of multi-polygon text")
  | number token => .numberFormat (.ofList token)

def parse (text : String) : Except Error Shape :=
  (read .binary64 text.toList).mapError (·.toError text.toList)

def toText (shape : Shape) : String :=
  .ofList (shape.render .binary64)

/-- Reads nested lists of coordinates. -/
def ofCoordinates (nested : NestedPolygons Float) : Except Error Shape :=
  (ofNested nested).mapError fun coordinates => .invalidPoint (Number.floatsText coordinates)

/-- One document for each polygon. -/
def toJson (shape : Shape) : List Json :=
  shape.toNested.map fun rings => .array <| rings.map fun points => .array <|
    points.map fun coordinates => .array <| coordinates.map .ofFloat

end MultiPolygon

end DbClient
