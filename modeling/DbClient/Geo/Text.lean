import DbClient.Geo.MultiPolygon

/-! The text of multi-polygons: brackets around polygons, around their rings and around the
points of these, commas between siblings, and points as `(x,y)`. -/

namespace DbClient

structure CoordinateText (α : Type) where
  write : α → List Char
  read? : List Char → Option α

namespace MultiPolygon

variable {α : Type}

/-- The texts of the elements of a list, in brackets. -/
def listText (items : List (List Char)) : List Char :=
  '[' :: [','].intercalate items ++ [']']

def pointText (format : CoordinateText α) (point : Point α) : List Char :=
  '(' :: format.write point.x ++ ',' :: format.write point.y ++ [')']

def polygonsText (format : CoordinateText α) (polygons : List (List (List (Point α)))) :
    List Char :=
  listText <| polygons.map fun rings => listText <| rings.map fun points =>
    listText <| points.map (pointText format)

def render (format : CoordinateText α) (shape : MultiPolygon α) : List Char :=
  polygonsText format shape.polygons

end MultiPolygon

end DbClient
