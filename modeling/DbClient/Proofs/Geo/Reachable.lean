import DbClient.Geo.Float
import DbClient.Proofs.Geo.Nested
import DbClient.Proofs.Geo.Reading

/-! Everything that can be made. Main statement: `Reachable.storage_refines_nested` says for every
multi-polygon that can be made that its ends are in order, that nothing is looked up outside its
lists, and that it is the same thing as its nested lists. -/

namespace DbClient.MultiPolygon

variable {α : Type}

/-- The items from one position to another, if the two are in order and in the list. -/
def slice? {β : Type} (items : List β) (start stop : Nat) : Option (List β) :=
  if start ≤ stop ∧ stop ≤ items.length then some ((items.take stop).drop start) else none

/-- The bounds of a part, where each end that is looked up has to be there. -/
def strictSpan? (ends : List Nat) (index : Nat) : Option (Nat × Nat) := do
  let stop ← ends[index]?
  let start ← if index = 0 then some 0 else ends[index - 1]?
  return (start, stop)

/-- The points of a ring, if nothing is looked up outside its list. -/
def strictRing? (shape : MultiPolygon α) (ring : Nat) : Option (List (Point α)) :=
  (strictSpan? shape.ringEnds ring).bind fun (start, stop) => slice? shape.points start stop

/-- The rings of a polygon, if nothing is looked up outside its list. -/
def strictPolygon? (shape : MultiPolygon α) (index : Nat) : Option (List (List (Point α))) :=
  (strictSpan? shape.polygonEnds index).bind fun (start, stop) =>
    (List.range' start (stop - start)).mapM shape.strictRing?

/-- The rings of all polygons, if nothing is looked up outside its list. -/
def strictPolygons? (shape : MultiPolygon α) : Option (List (List (List (Point α)))) :=
  (List.range shape.polygonCount).mapM shape.strictPolygon?

/-- The end of the part before is there whenever the end of a part is. -/
theorem strictSpan?_eq (ends : List Nat) (index : Nat) :
    strictSpan? ends index = span? ends index := by
  unfold strictSpan? span?
  cases hStop : ends[index]? with
  | none => rfl
  | some stop =>
      obtain ⟨hIndex, -⟩ := List.getElem?_eq_some_iff.mp hStop
      by_cases hZero : index = 0
      · simp [hZero]
      · have hBefore : index - 1 < ends.length := by omega
        simp [hZero, List.getD_eq_getElem?_getD, List.getElem?_eq_getElem hBefore]

theorem WellFormed.strictRing?_eq {shape : MultiPolygon α} (hShape : shape.WellFormed) {ring : Nat}
    (hRing : ring < shape.ringEnds.length) :
    shape.strictRing? ring = some (shape.ringPoints ring) := by
  obtain ⟨start, stop, hSpan, hStart, hStop⟩ := hShape.ringEnds.span? hRing
  simp [strictRing?, strictSpan?_eq, ringPoints, hSpan, slice?, hStart, hStop]

/-- A polygon is found without looking up anything outside its list. -/
theorem WellFormed.strictPolygon?_eq {shape : MultiPolygon α} (hShape : shape.WellFormed)
    {index : Nat} (hIndex : index < shape.polygonCount) :
    shape.strictPolygon? index = shape.polygon? index := by
  obtain ⟨start, stop, hSpan, -, hStop⟩ := hShape.polygonEnds.span? hIndex
  have hRings : (List.range' start (stop - start)).mapM shape.strictRing? =
      some ((List.range' start (stop - start)).map shape.ringPoints) := by
    apply mapM_eq_pure_map
    intro ring hRing
    have hBounds := List.mem_range'_1.mp hRing
    exact hShape.strictRing?_eq (by omega)
  simp [strictPolygon?, strictSpan?_eq, polygon?, hSpan, hRings]

/-- Every polygon is found without looking up anything outside its list. -/
theorem WellFormed.strictPolygons?_eq {shape : MultiPolygon α} (hShape : shape.WellFormed) :
    shape.strictPolygons? = some shape.polygons := by
  have hFound : ∀ index ∈ List.range shape.polygonCount,
      shape.polygon? index = some ((shape.polygon? index).getD []) := by
    intro index hIndex
    obtain ⟨start, stop, hSpan, -, -⟩ := hShape.polygonEnds.span? (List.mem_range.mp hIndex)
    simp [polygon?, hSpan]
  have hPolygons : shape.polygons =
      (List.range shape.polygonCount).map fun index => (shape.polygon? index).getD [] := by
    rw [polygons, List.filterMap_congr hFound, ← List.filterMap_eq_map]
    rfl
  rw [hPolygons]
  apply mapM_eq_pure_map
  intro index hIndex
  rw [hShape.strictPolygon?_eq (List.mem_range.mp hIndex)]
  exact hFound index hIndex

/-- The multi-polygons that can be made: new ones, those read from nested lists or from text,
those with one more polygon, and those with points written over. -/
inductive Reachable (format : CoordinateText α) : MultiPolygon α → Prop where
  | empty : Reachable format empty
  | ofPoint (point : Point α) : Reachable format (ofPoint point)
  | ofNested {nested : NestedPolygons α} {shape : MultiPolygon α}
      (hRead : ofNested nested = .ok shape) : Reachable format shape
  | read {text : List Char} {shape : MultiPolygon α} (hRead : read format text = .ok shape) :
      Reachable format shape
  | pushPolygon {shape : MultiPolygon α} (hShape : Reachable format shape)
      (rings : List (List (Point α))) : Reachable format (shape.pushPolygon rings)
  | setPoint {shape written : MultiPolygon α} (hShape : Reachable format shape)
      {polygon ring point : UInt64} {value : Point α}
      (hSet : shape.setPoint polygon ring point value = .ok written) : Reachable format written
  /-- All points may be written at once, as long as there are as many as before. -/
  | overwrite {shape : MultiPolygon α} (hShape : Reachable format shape) (points : List (Point α))
      (hLength : points.length = shape.points.length) : Reachable format { shape with points }

/-- A point that is set is written over where the indices lead to. Nothing else is changed, and
nothing at all if there is no point. -/
theorem setPoint_eq_ok_iff {shape written : MultiPolygon α} {polygon ring point : UInt64}
    {value : Point α} :
    shape.setPoint polygon ring point value = .ok written ↔
      ∃ index?, shape.pointIndex? polygon ring point = .ok index? ∧
        written = { shape with
          points := (index?.map (shape.points.set · value)).getD shape.points } := by
  rw [setPoint, bind_eq_ok_iff]
  constructor
  · rintro ⟨_ | index, hIndex, hWritten⟩
    · cases hWritten
      exact ⟨none, hIndex, rfl⟩
    · cases hWritten
      exact ⟨some index, hIndex, rfl⟩
  · rintro ⟨_ | index, hIndex, rfl⟩
    · exact ⟨none, hIndex, rfl⟩
    · exact ⟨some index, hIndex, rfl⟩

/-- Whatever a multi-polygon was made of, its ends cut its points and its rings. -/
theorem Reachable.wellFormed {format : CoordinateText α} {shape : MultiPolygon α}
    (hShape : Reachable format shape) : shape.WellFormed := by
  induction hShape with
  | empty => exact wellFormed_empty
  | ofPoint point => exact wellFormed_ofPolygons [[[point]]]
  | ofNested hRead =>
      obtain ⟨polygons, -, rfl⟩ := (ofNested_eq_ok_iff _ _).mp hRead
      exact wellFormed_ofPolygons polygons
  | read hRead =>
      obtain ⟨polygons, rfl⟩ := exists_ofPolygons_of_read hRead
      exact wellFormed_ofPolygons polygons
  | pushPolygon hShape rings ih => exact ih.pushPolygon rings
  | setPoint hShape hSet ih =>
      obtain ⟨hRings, hPolygons⟩ := ih
      obtain ⟨_ | index, -, rfl⟩ := setPoint_eq_ok_iff.mp hSet
      · exact ⟨hRings, hPolygons⟩
      · refine ⟨?_, hPolygons⟩
        rw [Option.map_some, Option.getD_some, List.length_set]
        exact hRings
  | overwrite hShape points hLength ih =>
      obtain ⟨hRings, hPolygons⟩ := ih
      exact ⟨by simpa [hLength] using hRings, hPolygons⟩

/-- Flat storage and nested lists are the same thing: the ends are in order and reach the ends of
the lists that they cut, so that nothing is looked up outside a list; and reading, showing,
pushing and comparing nested lists does the same as reading, showing, pushing and comparing
what is stored. Coordinates may be compared in any way. -/
theorem Reachable.storage_refines_nested {format : CoordinateText α} {shape : MultiPolygon α}
    (hShape : Reachable format shape) :
    shape.WellFormed ∧
    shape.strictPolygons? = some shape.polygons ∧
    MultiPolygon.ofNested shape.toNested = .ok shape ∧
    (∀ (nested : NestedPolygons α) (value : MultiPolygon α),
      MultiPolygon.ofNested nested = .ok value → value.toNested = nested) ∧
    (∀ rings : List (List (Point α)), (shape.pushPolygon rings).toNested =
      shape.toNested ++ [rings.map (List.map Point.toList)]) ∧
    ∀ [BEq α] (other : MultiPolygon α), Reachable format other →
      (shape == other) = (shape.toNested == other.toNested) := by
  have hFormed := hShape.wellFormed
  refine ⟨hFormed, hFormed.strictPolygons?_eq, hFormed.ofNested_toNested, ?_,
    hFormed.toNested_pushPolygon, ?_⟩
  · intro nested value hNested
    exact toNested_of_ofNested hNested
  · intro _ other hOther
    exact hFormed.beq_eq_beq_toNested hOther.wellFormed

/-- Polygons, rings and points of which some are missing, with a point written over. -/
def patchwork : MultiPolygon Float :=
  let shape := ((ofPoint ⟨1, 2⟩).pushPolygon [[], [⟨3, 4⟩]]).pushPolygon []
  (shape.setPoint 1 1 0 ⟨5, 6⟩).toOption.getD shape

/-- A point of the second polygon was written over. -/
theorem reachable_patchwork : Reachable .binary64 patchwork := by
  have hSet : (((ofPoint ⟨1, 2⟩).pushPolygon [[], [⟨3, 4⟩]]).pushPolygon []).setPoint 1 1 0 ⟨5, 6⟩ =
      .ok patchwork := rfl
  exact .setPoint (((Reachable.ofPoint _).pushPolygon _).pushPolygon _) hSet

/-- The empty ring, the empty polygon and the point that was written over are all stored. -/
theorem patchwork_storage :
    Reachable .binary64 patchwork ∧
    patchwork.toNested = [[[[1, 2]]], [[], [[5, 6]]], []] ∧
    MultiPolygon.ofNested patchwork.toNested = .ok patchwork := by
  obtain ⟨-, -, hNested, -⟩ := reachable_patchwork.storage_refines_nested
  exact ⟨reachable_patchwork, by decide, hNested⟩

end DbClient.MultiPolygon
