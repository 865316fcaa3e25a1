import DbClient.Proofs.Fault
import DbClient.Proofs.Geo.Storage

/-! Nested lists of coordinates. Main statements: `ofNested_eq_ok_iff`, by which nested lists are
read exactly when they are those of some polygons, which are then stored, and
`WellFormed.beq_eq_beq_toNested`, by which multi-polygons are equal exactly when their nested
lists are. -/

namespace DbClient.MultiPolygon

variable {α : Type}

/-- Nested lists are read item by item: each item that is one makes its value be pushed. -/
theorem foldlM_eq_ok_iff {β γ ε σ : Type} {step : σ → β → Except ε σ} {push : σ → γ → σ}
    {encode : γ → β}
    (hStep : ∀ state item next, step state item = .ok next ↔
      ∃ value, item = encode value ∧ next = push state value)
    (items : List β) (state next : σ) :
    items.foldlM step state = .ok next ↔
      ∃ values : List γ, items = values.map encode ∧ next = values.foldl push state := by
  induction items generalizing state with
  | nil =>
      constructor
      · intro hNext
        cases hNext
        exact ⟨[], rfl, rfl⟩
      · rintro ⟨values, hItems, rfl⟩
        rw [List.map_eq_nil_iff.mp hItems.symm]
        rfl
  | cons item rest ih =>
      rw [List.foldlM_cons]
      constructor
      · intro hNext
        cases hItem : step state item with
        | error fault => simp [hItem, bind, Except.bind] at hNext
        | ok middle =>
            obtain ⟨value, rfl, rfl⟩ := (hStep state item middle).mp hItem
            rw [hItem] at hNext
            obtain ⟨values, rfl, rfl⟩ := (ih _).mp hNext
            exact ⟨value :: values, rfl, rfl⟩
      · rintro ⟨values, hItems, rfl⟩
        cases values with
        | nil => cases hItems
        | cons value values =>
            obtain ⟨rfl, rfl⟩ := List.cons.inj hItems
            rw [(hStep state _ _).mpr ⟨value, rfl, rfl⟩]
            exact (ih _).mpr ⟨values, rfl, rfl⟩

/-- The same when something is closed behind the last item. -/
theorem map_foldlM_eq_ok_iff {β γ ε σ : Type} {step : σ → β → Except ε σ} {push : σ → γ → σ}
    {encode : γ → β} {close : σ → σ}
    (hStep : ∀ state item next, step state item = .ok next ↔
      ∃ value, item = encode value ∧ next = push state value)
    (items : List β) (state next : σ) :
    close <$> items.foldlM step state = .ok next ↔
      ∃ values : List γ, items = values.map encode ∧ next = close (values.foldl push state) := by
  constructor
  · intro hNext
    cases hFold : items.foldlM step state with
    | error fault =>
        rw [hFold] at hNext
        cases hNext
    | ok last =>
        rw [hFold] at hNext
        cases hNext
        obtain ⟨values, hItems, hLast⟩ := (foldlM_eq_ok_iff hStep items state last).mp hFold
        exact ⟨values, hItems, by rw [hLast]⟩
  · intro hValues
    obtain ⟨values, hItems, hNext⟩ := hValues
    rw [(foldlM_eq_ok_iff hStep items state _).mpr ⟨values, hItems, rfl⟩, hNext]
    rfl

/-- Coordinates are stored exactly if they are those of a point. -/
theorem pushCoordinates_eq_ok_iff (shape : MultiPolygon α) (coordinates : List α)
    (next : MultiPolygon α) :
    shape.pushCoordinates coordinates = .ok next ↔
      ∃ point : Point α, coordinates = point.toList ∧ next = shape.pushPoint point := by
  match coordinates with
  | [] => simp [pushCoordinates, Point.ofList?, Point.toList]
  | [x] => simp [pushCoordinates, Point.ofList?, Point.toList]
  | [x, y] =>
      constructor
      · intro hNext
        cases hNext
        exact ⟨⟨x, y⟩, rfl, rfl⟩
      · rintro ⟨point, hPoint, rfl⟩
        cases hPoint
        rfl
  | x :: y :: z :: rest => simp [pushCoordinates, Point.ofList?, Point.toList]

theorem pushNestedRing_eq_ok_iff (shape : MultiPolygon α) (ring : List (List α))
    (next : MultiPolygon α) :
    shape.pushNestedRing ring = .ok next ↔
      ∃ points : List (Point α), ring = points.map Point.toList ∧ next = shape.pushRing points :=
  map_foldlM_eq_ok_iff pushCoordinates_eq_ok_iff ring shape next

theorem pushNestedPolygon_eq_ok_iff (shape : MultiPolygon α) (polygon : List (List (List α)))
    (next : MultiPolygon α) :
    shape.pushNestedPolygon polygon = .ok next ↔
      ∃ rings : List (List (Point α)), polygon = rings.map (List.map Point.toList) ∧
        next = shape.pushPolygon rings :=
  map_foldlM_eq_ok_iff pushNestedRing_eq_ok_iff polygon shape next

/-- Nested lists are read exactly when they are those of some polygons, which are then stored. -/
theorem ofNested_eq_ok_iff (nested : NestedPolygons α) (shape : MultiPolygon α) :
    ofNested nested = .ok shape ↔
      ∃ polygons : List (List (List (Point α))),
        nested = polygons.map (List.map (List.map Point.toList)) ∧ shape = ofPolygons polygons :=
  foldlM_eq_ok_iff pushNestedPolygon_eq_ok_iff nested empty shape

theorem toNested_of_ofNested {nested : NestedPolygons α} {shape : MultiPolygon α}
    (hNested : ofNested nested = .ok shape) : shape.toNested = nested := by
  obtain ⟨polygons, rfl, rfl⟩ := (ofNested_eq_ok_iff nested shape).mp hNested
  rw [toNested, polygons_ofPolygons]

/-- Nested lists that are shown are read as the same multi-polygon. -/
theorem WellFormed.ofNested_toNested {shape : MultiPolygon α} (hShape : shape.WellFormed) :
    ofNested shape.toNested = .ok shape :=
  (ofNested_eq_ok_iff _ shape).mpr ⟨shape.polygons, rfl, hShape.ofPolygons_polygons.symm⟩

/-- Pushing a polygon appends it to the nested lists. -/
theorem WellFormed.toNested_pushPolygon {shape : MultiPolygon α} (hShape : shape.WellFormed)
    (more : List (List (Point α))) :
    (shape.pushPolygon more).toNested = shape.toNested ++ [more.map (List.map Point.toList)] := by
  rw [toNested, toNested, polygons_pushPolygon hShape, List.map_append]
  rfl

/-- A multi-polygon is empty exactly if it has no polygons. -/
theorem WellFormed.polygons_eq_nil_iff {shape : MultiPolygon α} (hShape : shape.WellFormed) :
    shape.polygons = [] ↔ shape.isEmpty = true := by
  constructor
  · intro hNone
    rw [← hShape.ofPolygons_polygons, hNone]
    rfl
  · intro hEmpty
    rw [polygons, polygonCount, List.isEmpty_iff.mp hEmpty]
    rfl

theorem WellFormed.toNested_eq_nil_iff {shape : MultiPolygon α} (hShape : shape.WellFormed) :
    shape.toNested = [] ↔ shape.isEmpty = true := by
  rw [toNested, List.map_eq_nil_iff, hShape.polygons_eq_nil_iff]

theorem WellFormed.flatten_toNested {shape : MultiPolygon α} (hShape : shape.WellFormed) :
    shape.toNested.flatten.flatten = shape.points.map Point.toList := by
  rw [toNested, ← List.map_flatten, ← List.map_flatten, hShape.flatten_polygons.1,
    hShape.flatten_rings.1]

/-! ### Faults -/

/-- Coordinates are refused exactly if they are not two. -/
theorem faultOf_pushCoordinates (shape : MultiPolygon α) (coordinates : List α) :
    faultOf (shape.pushCoordinates coordinates) =
      Option.guard (fun coordinates => coordinates.length ≠ 2) coordinates := by
  match coordinates with
  | [] => rfl
  | [x] => rfl
  | [x, y] => rfl
  | x :: y :: z :: rest => simp [pushCoordinates, Point.ofList?, faultOf, Option.guard]

theorem faultOf_pushNestedRing (shape : MultiPolygon α) (ring : List (List α)) :
    faultOf (shape.pushNestedRing ring) = ring.find? fun coordinates => coordinates.length ≠ 2 := by
  rw [pushNestedRing, faultOf_map, faultOf_foldlM faultOf_pushCoordinates, List.findSome?_guard]

theorem faultOf_pushNestedPolygon (shape : MultiPolygon α) (polygon : List (List (List α))) :
    faultOf (shape.pushNestedPolygon polygon) =
      polygon.flatten.find? fun coordinates => coordinates.length ≠ 2 := by
  rw [pushNestedPolygon, faultOf_map, faultOf_foldlM faultOf_pushNestedRing, List.find?_flatten]

/-- Nested lists fail at the first point that has not two coordinates. -/
theorem faultOf_ofNested (nested : NestedPolygons α) :
    faultOf (ofNested nested) =
      nested.flatten.flatten.find? fun coordinates => coordinates.length ≠ 2 := by
  rw [ofNested, faultOf_foldlM faultOf_pushNestedPolygon, List.flatten_flatten, List.find?_flatten,
    List.findSome?_map]
  rfl

/-! ### Equality -/

theorem beq_eq_true_iff_forall₂ {β : Type} [BEq β] (left right : List β) :
    (left == right) = true ↔ List.Forall₂ (fun x y => (x == y) = true) left right := by
  induction left generalizing right with
  | nil => cases right <;> simp
  | cons x left ih => cases right <;> simp [ih]

theorem beq_toList [BEq α] (left right : Point α) :
    (left.toList == right.toList) = (left == right) := by
  show (left.x == right.x && (left.y == right.y && true)) = (left.x == right.x && left.y == right.y)
  rw [Bool.and_true]

/-- Two multi-polygons are equal field by field exactly when their nested lists are equal, in
whichever way coordinates are compared. -/
theorem WellFormed.beq_eq_beq_toNested [BEq α] {left right : MultiPolygon α}
    (hLeft : left.WellFormed) (hRight : right.WellFormed) :
    (left == right) = (left.toNested == right.toNested) := by
  rw [Bool.eq_iff_iff]
  have hFields : (left == right) = true ↔
      List.Forall₂ (fun p q => (p == q) = true) left.points right.points ∧
        left.ringEnds = right.ringEnds ∧ left.polygonEnds = right.polygonEnds := by
    show (left.points == right.points &&
      (left.ringEnds == right.ringEnds && left.polygonEnds == right.polygonEnds)) = true ↔ _
    rw [Bool.and_eq_true, Bool.and_eq_true, beq_eq_true_iff_forall₂, beq_iff_eq, beq_iff_eq]
  have hNested : (left.toNested == right.toNested) = true ↔
      List.Forall₂ (List.Forall₂ (List.Forall₂ fun p q => (p == q) = true)) left.polygons
        right.polygons := by
    simp only [toNested, beq_eq_true_iff_forall₂, List.forall₂_map_left_iff,
      List.forall₂_map_right_iff, ← beq_toList]
  rw [hFields, hNested, forall₂_flatten_iff 0, forall₂_flatten_iff 0,
    hLeft.flatten_polygons.1, hRight.flatten_polygons.1, hLeft.flatten_polygons.2,
    hRight.flatten_polygons.2, hLeft.flatten_rings.1, hRight.flatten_rings.1,
    hLeft.flatten_rings.2, hRight.flatten_rings.2, and_assoc]

end DbClient.MultiPolygon
