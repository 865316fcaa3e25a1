import DbClient.Proofs.Geo.Reachable

/-! Points by their indices. Main statement: `Reachable.indexed_access`, by which a point is found
and written over where the nested lists have it, as long as no sum of indices leaves the machine
words. `pointAt?_overflows` shows what there is otherwise: a fault instead of no point. -/

namespace DbClient.MultiPolygon

variable {α β γ : Type}

/-! ### Entries of nested lists -/

/-- What three levels of lists have at these indices. -/
def entryAt? (lists : List (List (List β))) (first second third : Nat) : Option β :=
  (lists[first]?.bind fun inner => inner[second]?).bind fun items => items[third]?

/-- The same lists with another entry at these indices, if there is one. -/
def setEntry (lists : List (List (List β))) (first second third : Nat) (value : β) :
    List (List (List β)) :=
  lists.modify first fun inner => inner.modify second fun items => items.set third value

/-- A list stays as it is if a change leaves the item at the index as it is. -/
theorem modify_eq_self {items : List β} {index : Nat} {f : β → β}
    (hItem : ∀ item, items[index]? = some item → f item = item) : items.modify index f = items := by
  apply List.ext_getElem?
  intro other
  rw [List.getElem?_modify]
  cases hOther : items[other]? with
  | none => rfl
  | some item =>
      by_cases hIndex : index = other
      · subst hIndex
        simp [hItem item hOther]
      · simp [hIndex]

/-- Where there is no entry, nothing is set. -/
theorem setEntry_eq_self {lists : List (List (List β))} {first second third : Nat}
    (hNone : entryAt? lists first second third = none) (value : β) :
    setEntry lists first second third value = lists := by
  apply modify_eq_self
  intro inner hInner
  apply modify_eq_self
  intro items hItems
  rw [entryAt?, hInner, Option.bind_some, hItems, Option.bind_some] at hNone
  exact List.set_eq_of_length_le (List.getElem?_eq_none_iff.mp hNone)

theorem modify_map {f : β → γ} {g : γ → γ} {h : β → β} (hStep : ∀ item, g (f item) = f (h item))
    (items : List β) (index : Nat) : (items.map f).modify index g = (items.modify index h).map f := by
  induction items generalizing index with
  | nil => rw [List.map_nil, List.modify_nil, List.modify_nil, List.map_nil]
  | cons item rest ih =>
      cases index with
      | zero => simp [hStep]
      | succ index => simp [ih]

theorem entryAt?_map (f : β → γ) (lists : List (List (List β))) (first second third : Nat) :
    entryAt? (lists.map (List.map (List.map f))) first second third =
      (entryAt? lists first second third).map f := by
  simp only [entryAt?, List.getElem?_map]
  cases lists[first]? with
  | none => rfl
  | some inner =>
      simp only [Option.map_some, Option.bind_some, List.getElem?_map]
      cases inner[second]? with
      | none => rfl
      | some items => simp

theorem setEntry_map (f : β → γ) (lists : List (List (List β))) (first second third : Nat)
    (value : β) :
    setEntry (lists.map (List.map (List.map f))) first second third (f value) =
      (setEntry lists first second third value).map (List.map (List.map f)) := by
  apply modify_map
  intro inner
  apply modify_map
  intro items
  exact (List.map_set ..).symm

/-! ### Entries of parts -/

theorem slice_getElem? (items : List β) (start stop index : Nat) :
    ((items.take stop).drop start)[index]? =
      if start + index < stop then items[start + index]? else none := by
  rw [List.getElem?_drop, List.getElem?_take]

/-- An item of a slice is changed in the slice. -/
theorem slice_modify (items : List β) (start stop offset : Nat) (f : β → β) :
    ((items.modify (start + offset) f).take stop).drop start =
      ((items.take stop).drop start).modify offset f := by
  apply List.ext_getElem?
  intro index
  rw [List.getElem?_modify, slice_getElem?, slice_getElem?, List.getElem?_modify]
  simp only [Nat.add_left_cancel_iff]
  split <;> rfl

/-- What is outside of a slice is changed without the slice. -/
theorem slice_modify_of_outside (items : List β) {start stop position : Nat}
    (hOutside : position < start ∨ stop ≤ position) (f : β → β) :
    ((items.modify position f).take stop).drop start = (items.take stop).drop start := by
  apply List.ext_getElem?
  intro index
  rw [slice_getElem?, slice_getElem?]
  by_cases hInside : start + index < stop
  · have hAway : position ≠ start + index := by omega
    rw [if_pos hInside, if_pos hInside, List.getElem?_modify_ne _ _ hAway]
  · rw [if_neg hInside, if_neg hInside]

/-- The parts by their indices. -/
theorem getElem?_parts {ends : List Nat} {items : List β} (hEnds : Covers ends items.length)
    (index : Nat) : (parts ends items)[index]? = part? ends items index := by
  rw [parts_eq_map hEnds, List.getElem?_map]
  by_cases hIndex : index < ends.length
  · obtain ⟨start, stop, hSpan, -, -⟩ := hEnds.span? hIndex
    simp [part?, hSpan, List.getElem?_range hIndex]
  · have hRange : (List.range ends.length)[index]? = none := by simpa using hIndex
    have hNone : ends[index]? = none := by simpa using hIndex
    simp [part?, span?, hRange, hNone]

/-- What a part has at an index is what the list has that much behind the start of the part. -/
theorem getElem?_of_parts {ends : List Nat} {items : List β} (hEnds : Covers ends items.length)
    (index offset : Nat) :
    ((parts ends items)[index]?.bind fun part => part[offset]?) =
      (span? ends index).bind fun (start, stop) =>
        if start + offset < stop then items[start + offset]? else none := by
  rw [getElem?_parts hEnds, part?]
  cases span? ends index with
  | none => rfl
  | some span => exact slice_getElem? items span.1 span.2 offset

/-- Changing an item of the list changes that item of its part, and no other part. -/
theorem parts_modify {ends : List Nat} {items : List β} (hEnds : Covers ends items.length)
    {index start stop offset : Nat} (hSpan : span? ends index = some (start, stop))
    (hOffset : start + offset < stop) (f : β → β) :
    parts ends (items.modify (start + offset) f) =
      (parts ends items).modify index fun part => part.modify offset f := by
  have hEnds' : Covers ends (items.modify (start + offset) f).length := by
    rwa [List.length_modify]
  apply List.ext_getElem?
  intro other
  rw [List.getElem?_modify, getElem?_parts hEnds, getElem?_parts hEnds', part?, part?]
  cases hOther : span? ends other with
  | none => rfl
  | some span =>
      obtain ⟨start', stop'⟩ := span
      simp only [Option.map_some, Option.map_eq_map, Option.some.injEq]
      by_cases hIndex : index = other
      · subst hIndex
        obtain ⟨rfl, rfl⟩ := Prod.mk.inj (Option.some.inj (hSpan.symm.trans hOther))
        rw [if_pos rfl, slice_modify]
      · have hOutside : start + offset < start' ∨ stop' ≤ start + offset := by
          rcases Nat.lt_or_gt_of_ne hIndex with hLt | hLt
          · exact .inl (Nat.lt_of_lt_of_le hOffset (hEnds.disjoint hLt hSpan hOther))
          · exact .inr (Nat.le_add_right_of_le (hEnds.disjoint hLt hOther hSpan))
        rw [if_neg hIndex, slice_modify_of_outside items hOutside]

/-! ### Points of polygons -/

/-- Where a point is stored, when sums of indices are numbers of any size. -/
def flatIndex? (shape : MultiPolygon α) (polygon ring point : Nat) : Option Nat := do
  let (firstRing, lastRing) ← span? shape.polygonEnds polygon
  if lastRing ≤ firstRing + ring then none
  else
    let (start, stop) ← span? shape.ringEnds (firstRing + ring)
    if start + point < stop then some (start + point) else none

/-- The sums of indices on the way to a point are machine words. -/
def SumsFit (shape : MultiPolygon α) (polygon ring point : UInt64) : Prop :=
  ∀ firstRing lastRing, span? shape.polygonEnds polygon.toNat = some (firstRing, lastRing) →
    firstRing + ring.toNat < UInt64.size ∧
      (firstRing + ring.toNat < lastRing → ∀ start stop,
        span? shape.ringEnds (firstRing + ring.toNat) = some (start, stop) →
          start + point.toNat < UInt64.size)

/-- There are not more rings and not more points than machine words. -/
structure FitsMemory (shape : MultiPolygon α) : Prop where
  rings : shape.ringEnds.length ≤ UInt64.size
  points : shape.points.length ≤ UInt64.size

/-- An index leads to a point exactly if the polygon has the ring and the ring has the point. -/
theorem flatIndex?_eq_some_iff {shape : MultiPolygon α} {polygon ring point index : Nat} :
    shape.flatIndex? polygon ring point = some index ↔
      ∃ firstRing lastRing start stop,
        span? shape.polygonEnds polygon = some (firstRing, lastRing) ∧
          firstRing + ring < lastRing ∧
          span? shape.ringEnds (firstRing + ring) = some (start, stop) ∧
          start + point < stop ∧ start + point = index := by
  unfold flatIndex?
  cases hPolygon : span? shape.polygonEnds polygon with
  | none => simp
  | some span =>
      obtain ⟨firstRing, lastRing⟩ := span
      by_cases hRing : lastRing ≤ firstRing + ring
      · simp [hRing, Nat.not_lt.mpr hRing]
      · cases hPoints : span? shape.ringEnds (firstRing + ring) with
        | none => simp [hRing, hPoints]
        | some inner =>
            obtain ⟨start, stop⟩ := inner
            simp [hRing, hPoints, Nat.not_le.mp hRing]

/-- An index that is found shows that its sum is a machine word. -/
theorem indexFrom_eq_ok_iff {start found : Nat} {index : UInt64} :
    indexFrom start index = .ok found ↔
      start + index.toNat < UInt64.size ∧ start + index.toNat = found := by
  unfold indexFrom
  split
  · rename_i hSum
    simp [hSum]
  · rename_i hSum
    simp [hSum]

/-- As long as sums are machine words, they are what they are as numbers of any size. -/
theorem pointIndex?_of_sumsFit {shape : MultiPolygon α} {polygon ring point : UInt64}
    (hSums : shape.SumsFit polygon ring point) :
    shape.pointIndex? polygon ring point =
      .ok (shape.flatIndex? polygon.toNat ring.toNat point.toNat) := by
  rw [pointIndex?, flatIndex?]
  cases hPolygon : span? shape.polygonEnds polygon.toNat with
  | none => rfl
  | some span =>
      obtain ⟨firstRing, lastRing⟩ := span
      obtain ⟨hRingSum, hPointSum⟩ := hSums firstRing lastRing hPolygon
      simp only [Option.bind_eq_bind, Option.bind_some, indexFrom_eq_ok_iff.mpr ⟨hRingSum, rfl⟩]
      show (if lastRing ≤ firstRing + ring.toNat then _ else _) = _
      by_cases hRing : lastRing ≤ firstRing + ring.toNat
      · rw [if_pos hRing, if_pos hRing]
        rfl
      · rw [if_neg hRing, if_neg hRing]
        cases hPoints : span? shape.ringEnds (firstRing + ring.toNat) with
        | none => rfl
        | some inner =>
            obtain ⟨start, stop⟩ := inner
            have hSum := hPointSum (Nat.not_le.mp hRing) start stop hPoints
            simp only [Option.bind_some, indexFrom_eq_ok_iff.mpr ⟨hSum, rfl⟩]
            rfl

/-- Any answer shows that the sums on the way to it are machine words. -/
theorem sumsFit_of_pointIndex?_eq_ok {shape : MultiPolygon α} {polygon ring point : UInt64}
    {index? : Option Nat} (hAnswer : shape.pointIndex? polygon ring point = .ok index?) :
    shape.SumsFit polygon ring point := by
  intro firstRing lastRing hPolygon
  rw [pointIndex?, hPolygon] at hAnswer
  obtain ⟨ringIndex, hRingIndex, hAnswer⟩ := bind_eq_ok_iff.mp hAnswer
  obtain ⟨hRingSum, rfl⟩ := indexFrom_eq_ok_iff.mp hRingIndex
  refine ⟨hRingSum, ?_⟩
  intro hRing start stop hPoints
  rw [if_neg (Nat.not_le.mpr hRing), hPoints] at hAnswer
  obtain ⟨index, hIndex, -⟩ := bind_eq_ok_iff.mp hAnswer
  exact (indexFrom_eq_ok_iff.mp hIndex).1

/-- A sum that is no machine word is a fault, wherever the index would lead to. -/
theorem pointIndex?_of_not_sumsFit {shape : MultiPolygon α} {polygon ring point : UInt64}
    (hSums : ¬ shape.SumsFit polygon ring point) :
    shape.pointIndex? polygon ring point = .error .overflow := by
  cases hAnswer : shape.pointIndex? polygon ring point with
  | ok index? => exact absurd (sumsFit_of_pointIndex?_eq_ok hAnswer) hSums
  | error fault => cases fault; rfl

/-- Sums that leave the machine words lead to no point. -/
theorem WellFormed.sumsFit {shape : MultiPolygon α} (hShape : shape.WellFormed)
    (hFits : shape.FitsMemory) {polygon ring point : UInt64} {index : Nat}
    (hIndex : shape.flatIndex? polygon.toNat ring.toNat point.toNat = some index) :
    shape.SumsFit polygon ring point := by
  obtain ⟨firstRing, lastRing, start, stop, hPolygon, hRing, hPoints, hPoint, -⟩ :=
    flatIndex?_eq_some_iff.mp hIndex
  have hRings := (hShape.polygonEnds.bounds hPolygon).2
  have hStop := (hShape.ringEnds.bounds hPoints).2
  intro firstRing' lastRing' hPolygon'
  obtain ⟨rfl, rfl⟩ := Prod.mk.inj (Option.some.inj (hPolygon.symm.trans hPolygon'))
  refine ⟨by have := hFits.rings; omega, ?_⟩
  intro _ start' stop' hPoints'
  obtain ⟨rfl, rfl⟩ := Prod.mk.inj (Option.some.inj (hPoints.symm.trans hPoints'))
  have := hFits.points
  omega

/-- What the nested lists have at some indices is stored where these lead to. -/
theorem WellFormed.entryAt?_polygons {shape : MultiPolygon α} (hShape : shape.WellFormed)
    (polygon ring point : Nat) :
    entryAt? shape.polygons polygon ring point =
      (shape.flatIndex? polygon ring point).bind fun index => shape.points[index]? := by
  rw [entryAt?, polygons_eq_parts hShape, getElem?_of_parts hShape.polygonEnds_rings, flatIndex?]
  cases span? shape.polygonEnds polygon with
  | none => rfl
  | some span =>
      obtain ⟨firstRing, lastRing⟩ := span
      simp only [Option.bind_eq_bind, Option.bind_some]
      by_cases hRing : firstRing + ring < lastRing
      · rw [if_pos hRing, if_neg (Nat.not_le.mpr hRing), rings, getElem?_of_parts hShape.ringEnds]
        cases span? shape.ringEnds (firstRing + ring) with
        | none => rfl
        | some inner =>
            obtain ⟨start, stop⟩ := inner
            simp only [Option.bind_some]
            split <;> rfl
      · rw [if_neg hRing, if_pos (Nat.not_lt.mp hRing)]
        rfl

/-- Writing where indices lead to changes what the nested lists have at these, and nothing
else. -/
theorem WellFormed.polygons_set {shape : MultiPolygon α} (hShape : shape.WellFormed)
    {polygon ring point index : Nat} (hIndex : shape.flatIndex? polygon ring point = some index)
    (value : Point α) :
    polygons { shape with points := shape.points.set index value } =
      setEntry shape.polygons polygon ring point value := by
  obtain ⟨firstRing, lastRing, start, stop, hPolygon, hRing, hPoints, hPoint, rfl⟩ :=
    flatIndex?_eq_some_iff.mp hIndex
  have hSet : WellFormed { shape with points := shape.points.set (start + point) value } :=
    ⟨by simpa using hShape.ringEnds, hShape.polygonEnds⟩
  have hRings : rings { shape with points := shape.points.set (start + point) value } =
      shape.rings.modify (firstRing + ring) fun points => points.set point value := by
    simp only [rings, List.set_eq_modify]
    exact parts_modify hShape.ringEnds hPoints hPoint _
  rw [polygons_eq_parts hSet, hRings, polygons_eq_parts hShape, setEntry]
  exact parts_modify hShape.polygonEnds_rings hPolygon hRing _

theorem entryAt?_toNested (shape : MultiPolygon α) (polygon ring point : Nat) :
    entryAt? shape.toNested polygon ring point =
      (entryAt? shape.polygons polygon ring point).map Point.toList :=
  entryAt?_map Point.toList shape.polygons polygon ring point

/-- A stored point is a point of the nested lists. -/
theorem WellFormed.isSome_entryAt? {shape : MultiPolygon α} (hShape : shape.WellFormed)
    (polygon ring point : Nat) :
    (entryAt? shape.toNested polygon ring point).isSome =
      (shape.flatIndex? polygon ring point).isSome := by
  rw [entryAt?_toNested, hShape.entryAt?_polygons, Option.isSome_map]
  cases hIndex : shape.flatIndex? polygon ring point with
  | none => rfl
  | some index =>
      obtain ⟨_, _, _, _, -, -, hPoints, hPoint, rfl⟩ := flatIndex?_eq_some_iff.mp hIndex
      have hStop := (hShape.ringEnds.bounds hPoints).2
      simp [Nat.lt_of_lt_of_le hPoint hStop]

/-- Writing a point leaves the ends of rings and of polygons and the number of points. -/
theorem setPoint_ends {shape written : MultiPolygon α} {polygon ring point : UInt64}
    {value : Point α} (hSet : shape.setPoint polygon ring point value = .ok written) :
    written.ringEnds = shape.ringEnds ∧ written.polygonEnds = shape.polygonEnds ∧
      written.points.length = shape.points.length := by
  obtain ⟨_ | index, -, rfl⟩ := setPoint_eq_ok_iff.mp hSet
  · exact ⟨rfl, rfl, rfl⟩
  · exact ⟨rfl, rfl, List.length_set⟩

/-- As long as the sums of indices are machine words, writing a point changes what the nested
lists have there, and nothing else. -/
theorem WellFormed.toNested_setPoint {shape : MultiPolygon α} (hShape : shape.WellFormed)
    {polygon ring point : UInt64} (hSums : shape.SumsFit polygon ring point) (value : Point α) :
    (shape.setPoint polygon ring point value).map toNested =
      .ok (setEntry shape.toNested polygon.toNat ring.toNat point.toNat value.toList) := by
  rw [setPoint, pointIndex?_of_sumsFit hSums]
  cases hFlat : shape.flatIndex? polygon.toNat ring.toNat point.toNat with
  | none =>
      have hNone : entryAt? shape.toNested polygon.toNat ring.toNat point.toNat = none := by
        have hSome := hShape.isSome_entryAt? polygon.toNat ring.toNat point.toNat
        rw [hFlat] at hSome
        exact Option.isNone_iff_eq_none.mp (Option.isSome_eq_false_iff.mp hSome)
      rw [setEntry_eq_self hNone]
      rfl
  | some index =>
      have hSet := hShape.polygons_set hFlat value
      show Except.ok (toNested { shape with points := shape.points.set index value }) = _
      rw [toNested, hSet, ← setEntry_map]
      rfl

/-- As long as the sums of indices are machine words, a point is found exactly where the nested
lists have one, and writing it changes what they have there, and nothing else. When a sum is no
machine word, the nested lists have no point there, but that is not the answer: looking for a point
and writing it are both at fault, and no other multi-polygon comes of it. -/
theorem Reachable.indexed_access {format : CoordinateText α} {shape : MultiPolygon α}
    (hShape : Reachable format shape) (polygon ring point : UInt64) :
    (shape.SumsFit polygon ring point →
      (shape.pointAt? polygon ring point).map (Option.map Point.toList) =
        .ok (entryAt? shape.toNested polygon.toNat ring.toNat point.toNat) ∧
      (shape.pointIndex? polygon ring point).map Option.isSome =
        .ok (entryAt? shape.toNested polygon.toNat ring.toNat point.toNat).isSome ∧
      ∀ value, (shape.setPoint polygon ring point value).map toNested =
        .ok (setEntry shape.toNested polygon.toNat ring.toNat point.toNat value.toList)) ∧
    (¬ shape.SumsFit polygon ring point →
      shape.pointAt? polygon ring point = .error .overflow ∧
      ∀ value, shape.setPoint polygon ring point value = .error .overflow) ∧
    (shape.FitsMemory → ¬ shape.SumsFit polygon ring point →
      entryAt? shape.toNested polygon.toNat ring.toNat point.toNat = none) ∧
    ∀ value written, shape.setPoint polygon ring point value = .ok written →
      written.ringEnds = shape.ringEnds ∧ written.polygonEnds = shape.polygonEnds ∧
        written.points.length = shape.points.length := by
  have hFormed := hShape.wellFormed
  have hSome := hFormed.isSome_entryAt? polygon.toNat ring.toNat point.toNat
  refine ⟨?_, ?_, ?_, fun value written => setPoint_ends⟩
  · intro hSums
    have hIndex := pointIndex?_of_sumsFit hSums
    refine ⟨?_, ?_, hFormed.toNested_setPoint hSums⟩
    · rw [pointAt?, hIndex, entryAt?_toNested, hFormed.entryAt?_polygons]
      rfl
    · rw [hIndex, hSome]
      rfl
  · intro hSums
    have hIndex := pointIndex?_of_not_sumsFit hSums
    refine ⟨?_, ?_⟩
    · rw [pointAt?, hIndex]
      rfl
    · intro value
      rw [MultiPolygon.setPoint, hIndex]
      rfl
  · intro hFits hSums
    by_contra hEntry
    rw [Option.isSome_iff_ne_none.mpr hEntry] at hSome
    obtain ⟨index, hIndex⟩ := Option.isSome_iff_exists.mp hSome.symm
    exact hSums (hFormed.sumsFit hFits hIndex)

/-- A point behind an empty ring, and an index of a ring that leads out of the machine words. -/
theorem patchwork_indexed :
    (patchwork.pointAt? 1 1 0).map (Option.map Point.toList) =
      .ok (entryAt? patchwork.toNested 1 1 0) ∧
    entryAt? patchwork.toNested 1 1 0 = some [5, 6] ∧
    (patchwork.setPoint 1 1 0 ⟨7, 8⟩).map toNested = .ok [[[[1, 2]]], [[], [[7, 8]]], []] ∧
    patchwork.pointAt? 1 18446744073709551615 0 = .error .overflow ∧
    entryAt? patchwork.toNested 1 18446744073709551615 0 = none := by
  have hSums : patchwork.SumsFit 1 1 0 := by
    intro firstRing lastRing hPolygon
    cases hPolygon
    refine ⟨by decide, ?_⟩
    intro _ start stop hPoints
    cases hPoints
    decide
  have hFits : patchwork.FitsMemory := ⟨by decide, by decide⟩
  have hOverflows : ¬ patchwork.SumsFit 1 18446744073709551615 0 := by
    intro hSums
    exact absurd (hSums 1 3 rfl).1 (by decide)
  obtain ⟨hFound, -, hSet⟩ := (reachable_patchwork.indexed_access 1 1 0).1 hSums
  obtain ⟨-, hFault, hNone, -⟩ := reachable_patchwork.indexed_access 1 18446744073709551615 0
  exact ⟨hFound, by decide, hSet ⟨7, 8⟩, (hFault hOverflows).1, hNone hFits hOverflows⟩

/-- Two polygons with one point each. -/
def pair : MultiPolygon Float := (ofPoint ⟨1, 2⟩).pushPolygon [[⟨3, 4⟩]]

/-- The nested lists have no point at indices whose sums are no machine words, but to look there is
a fault. -/
theorem pointAt?_overflows :
    Reachable .binary64 pair ∧
    pair.toNested = [[[[1, 2]]], [[[3, 4]]]] ∧
    entryAt? pair.toNested 1 18446744073709551615 0 = none ∧
    pair.pointAt? 1 18446744073709551615 0 = .error .overflow ∧
    entryAt? pair.toNested 1 0 18446744073709551615 = none ∧
    pair.setPoint 1 0 18446744073709551615 ⟨5, 6⟩ = .error .overflow :=
  ⟨(Reachable.ofPoint _).pushPolygon _, by decide, by decide, rfl, by decide, rfl⟩

end DbClient.MultiPolygon
