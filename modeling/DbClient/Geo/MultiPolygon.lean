/-! Multi-polygons: lists of polygons, which are lists of rings, which are lists of points. The
points are stored in one flat list. A second list says where each ring ends among the points,
and a third one where each polygon ends among the rings. Polygons and rings may be empty. -/

namespace DbClient

structure Point (α : Type) where
  x : α
  y : α
  deriving DecidableEq, BEq, Repr

def Point.toList {α : Type} (point : Point α) : List α := [point.x, point.y]

/-- The point of two coordinates; other lists are no points. -/
def Point.ofList? {α : Type} : List α → Option (Point α)
  | [x, y] => some ⟨x, y⟩
  | _ => none

/-- Polygons, their rings, the points of these, and the coordinates of the points, as lists. -/
abbrev NestedPolygons (α : Type) := List (List (List (List α)))

structure MultiPolygon (α : Type) where
  points : List (Point α)
  /-- For each ring, the number of points up to its end. -/
  ringEnds : List Nat
  /-- For each polygon, the number of rings up to its end. -/
  polygonEnds : List Nat
  deriving DecidableEq, BEq, Repr

namespace MultiPolygon

variable {α β : Type}

def empty : MultiPolygon α := ⟨[], [], []⟩

instance : Inhabited (MultiPolygon α) := ⟨empty⟩

/-- One polygon with one ring with one point. -/
def ofPoint (point : Point α) : MultiPolygon α := ⟨[point], [1], [1]⟩

/-- Appends a point that belongs to no ring yet. -/
def pushPoint (shape : MultiPolygon α) (point : Point α) : MultiPolygon α :=
  { shape with points := shape.points ++ [point] }

/-- Makes a ring of the points that belong to none. The ring belongs to no polygon yet. -/
def closeRing (shape : MultiPolygon α) : MultiPolygon α :=
  { shape with ringEnds := shape.ringEnds ++ [shape.points.length] }

/-- Appends a ring that belongs to no polygon yet. -/
def pushRing (shape : MultiPolygon α) (ring : List (Point α)) : MultiPolygon α :=
  (ring.foldl pushPoint shape).closeRing

/-- Makes a polygon of the rings that belong to none. -/
def closePolygon (shape : MultiPolygon α) : MultiPolygon α :=
  { shape with polygonEnds := shape.polygonEnds ++ [shape.ringEnds.length] }

def pushPolygon (shape : MultiPolygon α) (rings : List (List (Point α))) : MultiPolygon α :=
  (rings.foldl pushRing shape).closePolygon

def ofPolygons (polygons : List (List (List (Point α)))) : MultiPolygon α :=
  polygons.foldl pushPolygon empty

/-- Appends the point of two coordinates; any other list is a fault. -/
def pushCoordinates (shape : MultiPolygon α) (coordinates : List α) :
    Except (List α) (MultiPolygon α) :=
  match Point.ofList? coordinates with
  | some point => .ok (shape.pushPoint point)
  | none => .error coordinates

def pushNestedRing (shape : MultiPolygon α) (ring : List (List α)) :
    Except (List α) (MultiPolygon α) :=
  closeRing <$> ring.foldlM pushCoordinates shape

def pushNestedPolygon (shape : MultiPolygon α) (rings : List (List (List α))) :
    Except (List α) (MultiPolygon α) :=
  closePolygon <$> rings.foldlM pushNestedRing shape

/-- Reads nested lists; the first point that has not two coordinates is the fault. -/
def ofNested (nested : NestedPolygons α) : Except (List α) (MultiPolygon α) :=
  nested.foldlM pushNestedPolygon empty

def isEmpty (shape : MultiPolygon α) : Bool :=
  shape.polygonEnds.isEmpty

def polygonCount (shape : MultiPolygon α) : Nat :=
  shape.polygonEnds.length

def pointCount (shape : MultiPolygon α) : Nat :=
  shape.points.length

/-- Where the part with this index starts and ends, in a list of the ends of all parts. -/
def span? (ends : List Nat) (index : Nat) : Option (Nat × Nat) :=
  ends[index]?.map fun stop => (if index = 0 then 0 else ends.getD (index - 1) 0, stop)

/-- The points of the ring with this index among all rings. -/
def ringPoints (shape : MultiPolygon α) (ring : Nat) : List (Point α) :=
  match span? shape.ringEnds ring with
  | none => []
  | some (start, stop) => (shape.points.take stop).drop start

/-- The rings of the polygon with this index. -/
def polygon? (shape : MultiPolygon α) (index : Nat) : Option (List (List (Point α))) :=
  (span? shape.polygonEnds index).map fun (start, stop) =>
    (List.range' start (stop - start)).map shape.ringPoints

def polygons (shape : MultiPolygon α) : List (List (List (Point α))) :=
  (List.range shape.polygonCount).filterMap shape.polygon?

def toNested (shape : MultiPolygon α) : NestedPolygons α :=
  shape.polygons.map fun rings => rings.map fun points => points.map Point.toList

/-- Why an index leads nowhere, not even to the answer that there is no point. -/
inductive IndexFault where
  /-- A sum of indices is no machine word. -/
  | overflow
  deriving DecidableEq, Repr

/-- The index that is so much behind the start of a part. -/
def indexFrom (start : Nat) (index : UInt64) : Except IndexFault Nat :=
  if start + index.toNat < UInt64.size then .ok (start + index.toNat) else .error .overflow

/-- Where a point is stored, given the indices of its polygon, of its ring in the polygon and
of itself in the ring. The indices are machine words. The sum of an index and the start of the
part that it counts from is computed before it is compared with the end of the part. -/
def pointIndex? (shape : MultiPolygon α) (polygon ring point : UInt64) :
    Except IndexFault (Option Nat) :=
  match span? shape.polygonEnds polygon.toNat with
  | none => return none
  | some (firstRing, lastRing) => do
    let ringIndex ← indexFrom firstRing ring
    if lastRing ≤ ringIndex then return none
    else
      match span? shape.ringEnds ringIndex with
      | none => return none
      | some (start, stop) =>
        let index ← indexFrom start point
        return if index < stop then some index else none

def pointAt? (shape : MultiPolygon α) (polygon ring point : UInt64) :
    Except IndexFault (Option (Point α)) := do
  let index? ← shape.pointIndex? polygon ring point
  return index?.bind fun index => shape.points[index]?

/-- The multi-polygon with another point at these indices, if there is a point. -/
def setPoint (shape : MultiPolygon α) (polygon ring point : UInt64) (value : Point α) :
    Except IndexFault (MultiPolygon α) := do
  match ← shape.pointIndex? polygon ring point with
  | none => return shape
  | some index => return { shape with points := shape.points.set index value }

def mapPoints (f : Point α → Point β) (shape : MultiPolygon α) : MultiPolygon β :=
  { shape with points := shape.points.map f }

end MultiPolygon

end DbClient
