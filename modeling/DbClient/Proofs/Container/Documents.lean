import DbClient.Container.Point
import DbClient.Proofs.Geo.Reachable

/-! Documents of nested lists. Main statements: `WellFormed.ofJson_toJson`, by which the documents
of a finite multi-polygon denote it, and `faultOf_ofJson`, by which documents of nested lists
fail at the first point that fails. -/

namespace DbClient

namespace Json

def ofCoordinates (coordinates : List Float) : Json :=
  array (coordinates.map ofFloat)

def ofRing (ring : List (List Float)) : Json :=
  array (ring.map ofCoordinates)

def ofPolygon (rings : List (List (List Float))) : Json :=
  array (rings.map ofRing)

/-- One document for each polygon of nested lists. -/
def ofNested (nested : NestedPolygons Float) : List Json :=
  nested.map ofPolygon

/-- The elements that a container shows are the documents of its nested lists. -/
theorem ofNested_toNested (shape : Shape) : ofNested shape.toNested = shape.toJson :=
  rfl

end Json

/-- Documents have no other coordinates. -/
def Point.IsFinite (point : Point Float) : Prop :=
  point.x.isFinite = true ∧ point.y.isFinite = true

instance (point : Point Float) : Decidable point.IsFinite :=
  inferInstanceAs (Decidable (_ ∧ _))

namespace MultiPolygon

/-- A coordinate is read back from its document exactly if it is finite; other ones are null there.
-/
theorem read_ofFloat (x : Float) :
    Coordinate.read (Json.ofFloat x) =
      if x.isFinite then .ok x else .error (.numberFormat "null") := by
  unfold Json.ofFloat
  split <;> rfl

/-- A point is read back from its document exactly if both coordinates are finite. -/
theorem pointOfJson_toList (point : Point Float) :
    pointOfJson (.ofCoordinates point.toList) =
      if point.IsFinite then .ok point else .error (.numberFormat "null") := by
  show (do
    let x ← Coordinate.read (Json.ofFloat point.x)
    let y ← Coordinate.read (Json.ofFloat point.y)
    return (⟨x, y⟩ : Point Float)) = _
  rw [read_ofFloat, read_ofFloat]
  by_cases hFinite : point.IsFinite
  · rw [if_pos hFinite, if_pos hFinite.1, if_pos hFinite.2]
    rfl
  · rw [if_neg hFinite]
    split
    · rename_i hX
      rw [if_neg fun hY => hFinite ⟨hX, hY⟩]
      rfl
    · rfl

/-- Lists of other lengths are rejected before a coordinate is read. -/
theorem pointOfJson_of_length {coordinates : List Float} (hLength : coordinates.length ≠ 2) :
    pointOfJson (.ofCoordinates coordinates) =
      .error (.invalidPoint (Json.ofCoordinates coordinates).toText) := by
  match coordinates with
  | [] => rfl
  | [_] => rfl
  | [_, _] => exact absurd rfl hLength
  | _ :: _ :: _ :: _ => rfl

/-- The document of nested lists is read as polygons, not as a point, unless it is empty. -/
theorem ofJson_ofNested {nested : NestedPolygons Float} (hNonempty : nested ≠ []) :
    ofJson (Json.ofNested nested) = ofPolygons <$> (Json.ofNested nested).mapM polygonOfJson := by
  have hArrays : (Json.ofNested nested).all Json.isArray = true := by
    rw [Json.ofNested, List.all_map, List.all_eq_true]
    intro rings _
    rfl
  have hEmpty : (Json.ofNested nested).isEmpty = false := by
    rwa [Json.ofNested, List.isEmpty_map, List.isEmpty_eq_false_iff]
  rw [ofJson, hEmpty, hArrays]
  rfl

/-- A ring of finite points is read back from its document. -/
theorem ringOfJson_map {points : List (Point Float)} (hFinite : ∀ point ∈ points, point.IsFinite) :
    ringOfJson (.ofRing (points.map Point.toList)) = .ok points := by
  show ((points.map Point.toList).map Json.ofCoordinates).mapM pointOfJson = .ok points
  rw [List.map_map]
  apply mapM_map_eq_pure
  intro point hPoint
  exact (pointOfJson_toList point).trans (if_pos (hFinite point hPoint))

/-- A polygon of finite points is read back from its document. -/
theorem polygonOfJson_map {rings : List (List (Point Float))}
    (hFinite : ∀ point ∈ rings.flatten, point.IsFinite) :
    polygonOfJson (.ofPolygon (rings.map (List.map Point.toList))) = .ok rings := by
  show ((rings.map (List.map Point.toList)).map Json.ofRing).mapM ringOfJson = .ok rings
  rw [List.map_map]
  apply mapM_map_eq_pure
  intro points hPoints
  exact ringOfJson_map fun point hPoint => hFinite point (List.mem_flatten_of_mem hPoints hPoint)

/-- The documents of finite points denote these points. -/
theorem ofJson_map {polygons : List (List (List (Point Float)))} (hNonempty : polygons ≠ [])
    (hFinite : ∀ point ∈ polygons.flatten.flatten, point.IsFinite) :
    ofJson (Json.ofNested (polygons.map (List.map (List.map Point.toList)))) =
      .ok (ofPolygons polygons) := by
  have hRead : (Json.ofNested (polygons.map (List.map (List.map Point.toList)))).mapM
      polygonOfJson = .ok polygons := by
    rw [Json.ofNested, List.map_map]
    apply mapM_map_eq_pure
    intro rings hRings
    apply polygonOfJson_map
    intro point hPoint
    obtain ⟨points, hPoints, hPoint⟩ := List.mem_flatten.mp hPoint
    exact hFinite point (List.mem_flatten_of_mem (List.mem_flatten_of_mem hRings hPoints) hPoint)
  rw [ofJson_ofNested (List.map_eq_nil_iff.not.mpr hNonempty), hRead]
  rfl

/-- What is wrong with the document of a point. -/
def documentFault? (coordinates : List Float) : Option Error :=
  faultOf (pointOfJson (.ofCoordinates coordinates))

/-- A ring is refused for the first coordinates that no document of a point stands for. -/
theorem faultOf_ringOfJson (ring : List (List Float)) :
    faultOf (ringOfJson (.ofRing ring)) = ring.findSome? documentFault? := by
  show faultOf ((ring.map Json.ofCoordinates).mapM pointOfJson) = _
  rw [faultOf_mapM, List.findSome?_map]
  rfl

/-- A polygon is refused for the first coordinates of all its rings that no document of a point
stands for. -/
theorem faultOf_polygonOfJson (rings : List (List (List Float))) :
    faultOf (polygonOfJson (.ofPolygon rings)) = rings.flatten.findSome? documentFault? := by
  show faultOf ((rings.map Json.ofRing).mapM ringOfJson) = _
  rw [faultOf_mapM, List.findSome?_map, findSome?_flatten]
  exact congrArg rings.findSome? (funext faultOf_ringOfJson)

/-- The documents of nested lists fail at the first point that fails. -/
theorem faultOf_ofJson {nested : NestedPolygons Float} (hNonempty : nested ≠ []) :
    faultOf (ofJson (Json.ofNested nested)) =
      nested.flatten.flatten.findSome? documentFault? := by
  rw [ofJson_ofNested hNonempty, faultOf_map, Json.ofNested, faultOf_mapM, List.findSome?_map,
    List.flatten_flatten, findSome?_flatten, List.findSome?_map]
  exact congrArg nested.findSome? (funext faultOf_polygonOfJson)

/-- If the points of nested lists have faults of one sort only, and some has one, then the documents
of the nested lists fail with a fault of that sort. -/
theorem exists_ofJson_eq_error {IsOfSort : Error → Prop} {nested : NestedPolygons Float}
    (hSort : ∀ coordinates ∈ nested.flatten.flatten, ∀ fault,
      documentFault? coordinates = some fault → IsOfSort fault)
    (hSome : ∃ coordinates ∈ nested.flatten.flatten, (documentFault? coordinates).isSome = true) :
    ∃ error, ofJson (Json.ofNested nested) = .error error ∧ IsOfSort error := by
  have hNonempty : nested ≠ [] := by
    rintro rfl
    obtain ⟨coordinates, hNone, -⟩ := hSome
    cases hNone
  obtain ⟨error, hFirst, hError⟩ := exists_findSome?_eq hSort hSome
  rw [← faultOf_ofJson hNonempty] at hFirst
  exact ⟨error, faultOf_eq_some_iff.mp hFirst, hError⟩

/-! ### Documents of multi-polygons -/

/-- The documents of a finite multi-polygon denote it. -/
theorem WellFormed.ofJson_toJson {shape : Shape} (hShape : shape.WellFormed)
    (hNonempty : shape.isEmpty = false) (hFinite : ∀ point ∈ shape.points, point.IsFinite) :
    ofJson shape.toJson = .ok shape := by
  have hPolygons : shape.polygons ≠ [] := by
    rwa [ne_eq, hShape.polygons_eq_nil_iff, Bool.not_eq_true]
  have hPoints : ∀ point ∈ shape.polygons.flatten.flatten, point.IsFinite := by
    rwa [hShape.flatten_polygons.1, hShape.flatten_rings.1]
  refine (ofJson_map hPolygons hPoints).trans ?_
  rw [hShape.ofPolygons_polygons]

/-- The documents of a multi-polygon with a point that is not finite are refused for the null in
the place of a coordinate. -/
theorem WellFormed.ofJson_toJson_eq_error {shape : Shape} (hShape : shape.WellFormed)
    (hInfinite : ∃ point ∈ shape.points, ¬ point.IsFinite) :
    ofJson shape.toJson = .error (.numberFormat "null") := by
  have hFault (point : Point Float) : documentFault? point.toList =
      if point.IsFinite then none else some (.numberFormat "null") := by
    rw [documentFault?, pointOfJson_toList]
    split <;> rfl
  obtain ⟨error, hError, rfl⟩ : ∃ error, ofJson (Json.ofNested shape.toNested) = .error error ∧
      error = .numberFormat "null" := by
    apply exists_ofJson_eq_error
    · rw [hShape.flatten_toNested, List.forall_mem_map]
      intro point _ fault hPoint
      rw [hFault] at hPoint
      split at hPoint
      · cases hPoint
      · exact (Option.some.inj hPoint).symm
    · obtain ⟨point, hPoint, hInfinite⟩ := hInfinite
      refine ⟨point.toList, ?_, ?_⟩
      · rw [hShape.flatten_toNested]
        exact List.mem_map_of_mem hPoint
      · rw [hFault, if_neg hInfinite]
        rfl
  exact hError

/-! ### Nested lists and their documents -/

/-- A point of finite coordinates is rejected for their number only. -/
theorem documentFault?_of_finite {coordinates : List Float}
    (hFinite : ∀ x ∈ coordinates, x.isFinite = true) {fault : Error}
    (hFault : documentFault? coordinates = some fault) : ∃ text, fault = .invalidPoint text := by
  by_cases hLength : coordinates.length = 2
  · obtain ⟨x, y, rfl⟩ := List.length_eq_two.mp hLength
    have hPoint : (⟨x, y⟩ : Point Float).IsFinite := ⟨hFinite x (by simp), hFinite y (by simp)⟩
    have hRead := (pointOfJson_toList ⟨x, y⟩).trans (if_pos hPoint)
    rw [documentFault?, show [x, y] = (⟨x, y⟩ : Point Float).toList from rfl, hRead] at hFault
    cases hFault
  · rw [documentFault?, pointOfJson_of_length hLength] at hFault
    exact ⟨_, (Option.some.inj hFault).symm⟩

/-- Documents of finite coordinates fail if some point has not two. -/
theorem ofJson_ofNested_eq_error {nested : NestedPolygons Float}
    (hFinite : ∀ coordinates ∈ nested.flatten.flatten, ∀ x ∈ coordinates, x.isFinite = true)
    (hBad : ∃ coordinates ∈ nested.flatten.flatten, coordinates.length ≠ 2) :
    ∃ text, ofJson (Json.ofNested nested) = .error (.invalidPoint text) := by
  obtain ⟨error, hError, text, rfl⟩ : ∃ error, ofJson (Json.ofNested nested) = .error error ∧
      ∃ text, error = .invalidPoint text := by
    apply exists_ofJson_eq_error
    · intro coordinates hCoordinates fault hFault
      exact documentFault?_of_finite (hFinite coordinates hCoordinates) hFault
    · obtain ⟨coordinates, hCoordinates, hLength⟩ := hBad
      refine ⟨coordinates, hCoordinates, ?_⟩
      rw [documentFault?, pointOfJson_of_length hLength]
      rfl
  exact ⟨text, hError⟩

/-- So do the nested lists themselves. -/
theorem ofCoordinates_eq_error {nested : NestedPolygons Float}
    (hBad : ∃ coordinates ∈ nested.flatten.flatten, coordinates.length ≠ 2) :
    ∃ text, ofCoordinates nested = .error (.invalidPoint text) := by
  have hFault : faultOf (ofCoordinates nested) = (nested.flatten.flatten.find? fun coordinates =>
      coordinates.length ≠ 2).map fun coordinates =>
        .invalidPoint (Number.floatsText coordinates) := by
    rw [ofCoordinates, faultOf_mapError, faultOf_ofNested]
  obtain ⟨bad, hBad, hLength⟩ := hBad
  have hFind : (nested.flatten.flatten.find? fun coordinates =>
      coordinates.length ≠ 2).isSome = true := by
    rw [List.find?_isSome]
    exact ⟨bad, hBad, decide_eq_true hLength⟩
  obtain ⟨first, hFirst⟩ := Option.isSome_iff_exists.mp hFind
  rw [hFirst] at hFault
  exact ⟨_, faultOf_eq_some_iff.mp hFault⟩

/-- Nested lists of points and their documents denote the same multi-polygon. -/
theorem exists_ofCoordinates_eq_ok {nested : NestedPolygons Float} (hNonempty : nested ≠ [])
    (hFinite : ∀ coordinates ∈ nested.flatten.flatten, ∀ x ∈ coordinates, x.isFinite = true)
    (hPairs : ∀ coordinates ∈ nested.flatten.flatten, coordinates.length = 2) :
    ∃ shape, shape.toNested = nested ∧ ofCoordinates nested = .ok shape ∧
      ofJson (Json.ofNested nested) = .ok shape := by
  have hFault : faultOf (ofNested nested) = none := by
    rw [faultOf_ofNested, List.find?_eq_none]
    intro coordinates hCoordinates
    simp [hPairs coordinates hCoordinates]
  obtain ⟨shape, hShape⟩ := faultOf_eq_none_iff.mp hFault
  have hNested := toNested_of_ofNested hShape
  have hReachable : Reachable .binary64 shape := .ofNested hShape
  have hFormed := hReachable.wellFormed
  have hPoints : ∀ point ∈ shape.points, point.IsFinite := by
    intro point hPoint
    have hMem : point.toList ∈ nested.flatten.flatten := by
      rw [← hNested, hFormed.flatten_toNested]
      exact List.mem_map_of_mem hPoint
    exact ⟨hFinite _ hMem _ List.mem_cons_self,
      hFinite _ hMem _ (List.mem_cons_of_mem _ List.mem_cons_self)⟩
  have hShown : shape.isEmpty = false := by
    rw [← Bool.not_eq_true, ← hFormed.toNested_eq_nil_iff, hNested]
    exact hNonempty
  have hDocuments := hFormed.ofJson_toJson hShown hPoints
  rw [← Json.ofNested_toNested, hNested] at hDocuments
  refine ⟨shape, hNested, ?_, hDocuments⟩
  rw [ofCoordinates, hShape]
  rfl

end MultiPolygon

end DbClient
