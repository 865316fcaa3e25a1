import DbClient.Proofs.Geo.Partition

/-! Flat storage of multi-polygons. Main statements: `WellFormed.pushPolygon`, by which the ends
stay in order when a polygon is pushed, `polygons_pushPolygon`, by which the polygon is then the
last one, and `WellFormed.ofPolygons_polygons`, by which the polygons say what is stored. -/

namespace DbClient.MultiPolygon

variable {α : Type}

/-- The rings of all polygons, one after another. -/
def rings (shape : MultiPolygon α) : List (List (Point α)) :=
  parts shape.ringEnds shape.points

/-- The ends of the rings cut the points, and the ends of the polygons cut the rings. -/
structure WellFormed (shape : MultiPolygon α) : Prop where
  ringEnds : Covers shape.ringEnds shape.points.length
  polygonEnds : Covers shape.polygonEnds shape.ringEnds.length

theorem wellFormed_empty : WellFormed (empty : MultiPolygon α) := ⟨.nil, .nil⟩

theorem ringPoints_eq (shape : MultiPolygon α) (ring : Nat) :
    shape.ringPoints ring = (part? shape.ringEnds shape.points ring).getD [] := by
  unfold ringPoints part?
  cases span? shape.ringEnds ring <;> rfl

theorem rings_eq_map {shape : MultiPolygon α}
    (hRings : Covers shape.ringEnds shape.points.length) :
    shape.rings = (List.range shape.ringEnds.length).map shape.ringPoints := by
  simp only [rings, parts_eq_map hRings, ← ringPoints_eq]

/-- A polygon is found as a part of all rings. -/
theorem polygon?_eq {shape : MultiPolygon α} (hShape : shape.WellFormed) {index : Nat}
    (hIndex : index < shape.polygonEnds.length) :
    shape.polygon? index = part? shape.polygonEnds shape.rings index := by
  obtain ⟨start, stop, hSpan, hStart, hStop⟩ := hShape.polygonEnds.span? hIndex
  have hSlice : (shape.rings.take stop).drop start =
      (List.range' start (stop - start)).map shape.ringPoints := by
    rw [rings_eq_map hShape.ringEnds, ← List.map_take, ← List.map_drop, List.take_range,
      Nat.min_eq_left hStop, List.range_eq_range', List.drop_range', Nat.zero_add, Nat.mul_one]
  simp only [polygon?, part?, hSpan, Option.map_some, hSlice]

/-- Polygons are the parts of the rings. -/
theorem polygons_eq_parts {shape : MultiPolygon α} (hShape : shape.WellFormed) :
    shape.polygons = parts shape.polygonEnds shape.rings := by
  apply List.filterMap_congr
  intro index hIndex
  exact polygon?_eq hShape (List.mem_range.mp hIndex)

theorem length_rings {shape : MultiPolygon α} (hRings : Covers shape.ringEnds shape.points.length) :
    shape.rings.length = shape.ringEnds.length :=
  length_parts hRings

theorem WellFormed.polygonEnds_rings {shape : MultiPolygon α} (hShape : shape.WellFormed) :
    Covers shape.polygonEnds shape.rings.length := by
  rw [length_rings hShape.ringEnds]
  exact hShape.polygonEnds

theorem foldl_pushPoint (shape : MultiPolygon α) (points : List (Point α)) :
    points.foldl pushPoint shape = { shape with points := shape.points ++ points } := by
  induction points generalizing shape with
  | nil => simp
  | cons point rest ih => simp [ih, pushPoint]

theorem pushRing_eq (shape : MultiPolygon α) (ring : List (Point α)) :
    shape.pushRing ring =
      ⟨shape.points ++ ring, shape.ringEnds ++ [shape.points.length + ring.length],
        shape.polygonEnds⟩ := by
  simp [pushRing, foldl_pushPoint, closeRing]

/-- Rings that are pushed stand behind the others, and the polygons stay as they are. -/
theorem foldl_pushRing {shape : MultiPolygon α}
    (hRings : Covers shape.ringEnds shape.points.length) (more : List (List (Point α))) :
    Covers (more.foldl pushRing shape).ringEnds (more.foldl pushRing shape).points.length ∧
      (more.foldl pushRing shape).rings = shape.rings ++ more ∧
      (more.foldl pushRing shape).polygonEnds = shape.polygonEnds := by
  induction more generalizing shape with
  | nil => exact ⟨hRings, by simp, rfl⟩
  | cons ring rest ih =>
      have hNext : Covers (shape.pushRing ring).ringEnds (shape.pushRing ring).points.length := by
        rw [pushRing_eq, List.length_append]
        exact hRings.append ring.length
      have hPushed : (shape.pushRing ring).rings = shape.rings ++ [ring] := by
        rw [rings, pushRing_eq]
        exact parts_append hRings ring
      obtain ⟨hCovers, hAll, hPolygons⟩ := ih hNext
      refine ⟨hCovers, ?_, ?_⟩
      · rw [List.foldl_cons, hAll, hPushed, List.append_assoc, List.singleton_append]
      · rw [List.foldl_cons, hPolygons, pushRing_eq]

theorem rings_pushPolygon {shape : MultiPolygon α} (hShape : shape.WellFormed)
    (more : List (List (Point α))) : (shape.pushPolygon more).rings = shape.rings ++ more :=
  (foldl_pushRing hShape.ringEnds more).2.1

theorem polygonEnds_pushPolygon {shape : MultiPolygon α} (hShape : shape.WellFormed)
    (more : List (List (Point α))) :
    (shape.pushPolygon more).polygonEnds =
      shape.polygonEnds ++ [shape.rings.length + more.length] := by
  obtain ⟨hCovers, hAll, hPolygons⟩ := foldl_pushRing hShape.ringEnds more
  rw [pushPolygon, closePolygon, hPolygons, ← length_rings hCovers, hAll, List.length_append]

/-- Pushing a polygon keeps the ends in order. -/
theorem WellFormed.pushPolygon {shape : MultiPolygon α} (hShape : shape.WellFormed)
    (more : List (List (Point α))) : (shape.pushPolygon more).WellFormed := by
  have hCovers := (foldl_pushRing hShape.ringEnds more).1
  refine ⟨hCovers, ?_⟩
  have hRings : (shape.pushPolygon more).ringEnds.length = shape.rings.length + more.length := by
    rw [← List.length_append, ← rings_pushPolygon hShape]
    exact (length_rings hCovers).symm
  rw [polygonEnds_pushPolygon hShape, hRings, length_rings hShape.ringEnds]
  exact hShape.polygonEnds.append more.length

/-- A polygon that is pushed stands behind the others, which stay as they are. -/
theorem polygons_pushPolygon {shape : MultiPolygon α} (hShape : shape.WellFormed)
    (more : List (List (Point α))) :
    (shape.pushPolygon more).polygons = shape.polygons ++ [more] := by
  rw [polygons_eq_parts (hShape.pushPolygon more), polygons_eq_parts hShape,
    polygonEnds_pushPolygon hShape, rings_pushPolygon hShape, parts_append hShape.polygonEnds_rings]

/-- Polygons that are pushed one after the other are all there, in their order. -/
theorem foldl_pushPolygon {shape : MultiPolygon α} (hShape : shape.WellFormed)
    (more : List (List (List (Point α)))) :
    (more.foldl MultiPolygon.pushPolygon shape).WellFormed ∧
      (more.foldl MultiPolygon.pushPolygon shape).polygons = shape.polygons ++ more := by
  induction more generalizing shape with
  | nil => exact ⟨hShape, by simp⟩
  | cons polygon rest ih =>
      obtain ⟨hAll, hPolygons⟩ := ih (hShape.pushPolygon polygon)
      refine ⟨hAll, ?_⟩
      rw [List.foldl_cons, hPolygons, polygons_pushPolygon hShape, List.append_assoc,
        List.singleton_append]

/-- The ends of polygons that are stored are in order. -/
theorem wellFormed_ofPolygons (polygons : List (List (List (Point α)))) :
    (ofPolygons polygons).WellFormed :=
  (foldl_pushPolygon wellFormed_empty polygons).1

/-- Polygons that are stored are shown again. -/
theorem polygons_ofPolygons (polygons : List (List (List (Point α)))) :
    (ofPolygons polygons).polygons = polygons :=
  (foldl_pushPolygon wellFormed_empty polygons).2

/-- The polygons say what the rings are and where the polygons end. -/
theorem WellFormed.flatten_polygons {shape : MultiPolygon α} (hShape : shape.WellFormed) :
    shape.polygons.flatten = shape.rings ∧ endsFrom 0 shape.polygons = shape.polygonEnds := by
  rw [polygons_eq_parts hShape]
  exact flatten_parts hShape.polygonEnds_rings

/-- The rings say what the points are and where the rings end. -/
theorem WellFormed.flatten_rings {shape : MultiPolygon α} (hShape : shape.WellFormed) :
    shape.rings.flatten = shape.points ∧ endsFrom 0 shape.rings = shape.ringEnds :=
  flatten_parts hShape.ringEnds

/-- A multi-polygon is determined by its polygons. -/
theorem WellFormed.eq_of_polygons {left right : MultiPolygon α} (hLeft : left.WellFormed)
    (hRight : right.WellFormed) (hPolygons : left.polygons = right.polygons) : left = right := by
  have hRings : left.rings = right.rings := by
    rw [← hLeft.flatten_polygons.1, ← hRight.flatten_polygons.1, hPolygons]
  have hPoints : left.points = right.points := by
    rw [← hLeft.flatten_rings.1, ← hRight.flatten_rings.1, hRings]
  have hRingEnds : left.ringEnds = right.ringEnds := by
    rw [← hLeft.flatten_rings.2, ← hRight.flatten_rings.2, hRings]
  have hPolygonEnds : left.polygonEnds = right.polygonEnds := by
    rw [← hLeft.flatten_polygons.2, ← hRight.flatten_polygons.2, hPolygons]
  cases left
  cases right
  simp_all

/-- Polygons that are shown are stored as the same multi-polygon. -/
theorem WellFormed.ofPolygons_polygons {shape : MultiPolygon α} (hShape : shape.WellFormed) :
    ofPolygons shape.polygons = shape :=
  (wellFormed_ofPolygons _).eq_of_polygons hShape (polygons_ofPolygons _)

end DbClient.MultiPolygon
