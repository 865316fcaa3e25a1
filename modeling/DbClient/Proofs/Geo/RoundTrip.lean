import DbClient.Proofs.Geo.Reachable
import DbClient.Proofs.Number.FloatText

/-! The text of a multi-polygon reads back. Main statement: `read_render`, which asks no more
than that the coordinates read back and that their texts hold no delimiters and no blanks. -/

namespace DbClient

open Text

variable {α β σ : Type}

/-- The text of a coordinate reads back and can be told from what surrounds it. -/
structure CoordinateText.Faithful (format : CoordinateText α) (x : α) : Prop where
  readsBack : format.read? (format.write x) = some x
  plain : ∀ c ∈ format.write x, isBlank c = false ∧ MultiPolygon.endsNumber c = false

namespace MultiPolygon

/-- A faithful text is read up to the delimiter behind it. -/
theorem readsNumber_write {format : CoordinateText α} {x : α} (hx : format.Faithful x)
    {delimiter : Char} (hBlank : isBlank delimiter = false) (hEnds : endsNumber delimiter = true)
    (rest : List Char) :
    ReadsNumber format (format.write x ++ delimiter :: rest) x (delimiter :: rest) := by
  have hStart : trimStart (format.write x ++ delimiter :: rest) =
      format.write x ++ delimiter :: rest := by
    cases hWrite : format.write x with
    | nil => exact trimStart_cons hBlank rest
    | cons c more =>
        have hc := (hx.plain c (by rw [hWrite]; exact List.mem_cons_self)).1
        exact trimStart_cons hc _
  have hToken : ∀ c ∈ format.write x, (!endsNumber c) = true := by
    intro c hc
    simp [(hx.plain c hc).2]
  have hTrim : trim (format.write x) = format.write x :=
    trim_of_plain fun c hc => (hx.plain c hc).1
  constructor
  · rw [hStart, List.takeWhile_append_of_pos hToken, List.takeWhile_cons_of_neg (by simp [hEnds]),
      List.append_nil, hTrim]
    exact hx.readsBack
  · rw [hStart, List.dropWhile_append_of_pos hToken, List.dropWhile_cons_of_neg (by simp [hEnds])]

/-- Both coordinates of a point have faithful texts. -/
def FaithfulPoint (format : CoordinateText α) (point : Point α) : Prop :=
  format.Faithful point.x ∧ format.Faithful point.y

/-- A point is read back from its text, whatever comes behind it. -/
theorem reads_pointText {format : CoordinateText α} {point : Point α}
    (hPoint : FaithfulPoint format point) (shape : MultiPolygon α)
    (rest : List Char) :
    Reads (readPoint format) shape (pointText format point ++ rest) (shape.pushPoint point) rest := by
  have hText : pointText format point ++ rest =
      '(' :: (format.write point.x ++ ',' :: (format.write point.y ++ ')' :: rest)) := by
    simp [pointText]
  rw [hText]
  exact reads_readPoint_iff.mpr ⟨_, point.x, _, _, point.y, _, trimStart_cons rfl _,
    readsNumber_write hPoint.1 rfl rfl _, trimStart_cons rfl _,
    readsNumber_write hPoint.2 rfl rfl _, trimStart_cons rfl _, rfl⟩

/-- Items are read back from their texts with commas between them. -/
theorem readsItems_intercalate {item : Reader σ} (push : σ → β → σ) (write : β → List Char)
    (value : β) (others : List β)
    (hItem : ∀ other ∈ value :: others, ∀ (state : σ) (rest : List Char),
      Reads item state (write other ++ rest) (push state other) rest)
    (state : σ) (rest : List Char) :
    ReadsItems item state ([','].intercalate ((value :: others).map write) ++ ']' :: rest)
      ((value :: others).foldl push state) rest := by
  induction others generalizing value state with
  | nil =>
      have hValue := hItem value List.mem_cons_self state (']' :: rest)
      rw [List.map_singleton, List.intercalate_singleton]
      exact .last hValue (trimStart_cons rfl rest)
  | cons second others ih =>
      rw [List.map_cons, List.map_cons, List.intercalate_cons_cons, List.append_assoc,
        List.append_assoc]
      refine .more (hItem value List.mem_cons_self state _) (trimStart_cons rfl _) ?_
      exact ih second (fun other hOther => hItem other (List.mem_cons_of_mem _ hOther)) _

/-- A list reads back if its elements do. -/
theorem reads_listText {item : Reader σ} (push : σ → β → σ) (write : β → List Char)
    (hCloses : NeverCloses item) {values : List β}
    (hItem : ∀ value ∈ values, ∀ (state : σ) (rest : List Char),
      Reads item state (write value ++ rest) (push state value) rest)
    (state : σ) (rest : List Char) :
    Reads (readList item) state (listText (values.map write) ++ rest) (values.foldl push state)
      rest := by
  have hText : listText (values.map write) ++ rest =
      '[' :: ([','].intercalate (values.map write) ++ ']' :: rest) := by
    simp [listText]
  rw [hText]
  refine reads_readList_iff.mpr ⟨_, trimStart_cons rfl _, ?_⟩
  cases values with
  | nil => exact .inl ⟨trimStart_cons rfl rest, rfl⟩
  | cons value others =>
      have hItems := readsItems_intercalate push write value others hItem state rest
      refine .inr ⟨?_, hItems⟩
      cases hItems with
      | last hFirst hClose => exact hCloses hFirst
      | more hFirst hComma hOthers => exact hCloses hFirst

/-- A ring is read back from its text, whatever comes behind it. -/
theorem reads_ringText {format : CoordinateText α} {points : List (Point α)}
    (hPoints : ∀ point ∈ points, FaithfulPoint format point) (shape : MultiPolygon α)
    (rest : List Char) :
    Reads (readRing format) shape (listText (points.map (pointText format)) ++ rest)
      (shape.pushRing points) rest := by
  have hList := reads_listText pushPoint (pointText format) (neverCloses_readPoint format)
    (fun point hPoint => reads_pointText (hPoints point hPoint)) shape rest
  exact reads_readRing_iff.mpr ⟨_, hList, rfl⟩

/-- A polygon is read back from its text, whatever comes behind it. -/
theorem reads_polygonText {format : CoordinateText α} {rings : List (List (Point α))}
    (hRings : ∀ points ∈ rings, ∀ point ∈ points, FaithfulPoint format point)
    (shape : MultiPolygon α) (rest : List Char) :
    Reads (readPolygon format) shape
      (listText (rings.map fun points => listText (points.map (pointText format))) ++ rest)
      (shape.pushPolygon rings) rest := by
  have hList := reads_listText pushRing (fun points => listText (points.map (pointText format)))
    (neverCloses_readRing format) (fun points hPoints => reads_ringText (hRings points hPoints))
    shape rest
  exact reads_readPolygon_iff.mpr ⟨_, hList, rfl⟩

/-- All polygons are read back from their text, whatever comes behind it. -/
theorem reads_polygonsText {format : CoordinateText α} {polygons : List (List (List (Point α)))}
    (hPolygons : ∀ rings ∈ polygons, ∀ points ∈ rings, ∀ point ∈ points,
      FaithfulPoint format point)
    (shape : MultiPolygon α) (rest : List Char) :
    Reads (readList (readPolygon format)) shape (polygonsText format polygons ++ rest)
      (polygons.foldl pushPolygon shape) rest :=
  reads_listText pushPolygon _ (neverCloses_readPolygon format)
    (fun rings hRings => reads_polygonText (hPolygons rings hRings)) shape rest

/-- Every point of a polygon is stored. -/
theorem WellFormed.mem_points {shape : MultiPolygon α} (hShape : shape.WellFormed)
    {polygon : List (List (Point α))} {ring : List (Point α)} {point : Point α}
    (hPolygon : polygon ∈ shape.polygons) (hRing : ring ∈ polygon) (hPoint : point ∈ ring) :
    point ∈ shape.points := by
  rw [← hShape.flatten_rings.1, ← hShape.flatten_polygons.1]
  exact List.mem_flatten.mpr
    ⟨ring, List.mem_flatten.mpr ⟨polygon, hPolygon, hRing⟩, hPoint⟩

/-- The text of a multi-polygon whose coordinates have faithful texts reads back. -/
theorem read_render {format : CoordinateText α} {shape : MultiPolygon α}
    (hShape : shape.WellFormed) (hPoints : ∀ point ∈ shape.points, FaithfulPoint format point) :
    read format (shape.render format) = .ok shape := by
  have hReads : Reads (readList (readPolygon format)) empty
      (polygonsText format shape.polygons ++ []) (shape.polygons.foldl pushPolygon empty) [] :=
    reads_polygonsText (fun rings hRings points hRing point hPoint =>
      hPoints point (hShape.mem_points hRings hRing hPoint)) empty []
  rw [List.append_nil] at hReads
  rw [← ofPolygons, hShape.ofPolygons_polygons] at hReads
  exact read_eq_ok_iff.mpr ⟨[], hReads, rfl⟩

/-- Letters, digits, points and signs do not stand between coordinates. -/
theorem plain_of_isNumeralChar {c : Char} (hc : Number.Numeral.IsNumeralChar c) :
    isBlank c = false ∧ endsNumber c = false := by
  rcases hc with hAlphanum | rfl | rfl | rfl
  · have hRange : (65 ≤ c.toNat ∧ c.toNat ≤ 90 ∨ 97 ≤ c.toNat ∧ c.toNat ≤ 122) ∨
        48 ≤ c.toNat ∧ c.toNat ≤ 57 := by
      simpa [Char.isAlphanum, Char.isAlpha, Char.isUpper, Char.isLower, Char.isDigit,
        UInt32.le_iff_toNat_le] using hAlphanum
    constructor
    · simp only [isBlank, Bool.or_eq_false_iff, Bool.and_eq_false_iff, decide_eq_false_iff_not]
      omega
    · have hComma : c ≠ ',' := fun hComma => by simp [hComma] at hAlphanum
      have hParenthesis : c ≠ ')' := fun hParenthesis => by simp [hParenthesis] at hAlphanum
      simp [endsNumber, hComma, hParenthesis]
  all_goals decide

/-- Every number of 64 bits is read back from its text, also if it is infinite. -/
theorem faithful_binary64 {x : Float} (hNumber : x.isNaN = false) :
    CoordinateText.binary64.Faithful x := by
  have hRead := Number.readFloat?_floatText hNumber
  obtain ⟨numeral, hNumeral, -⟩ := Option.map_eq_some_iff.mp hRead
  exact ⟨hRead, fun c hc => plain_of_isNumeralChar
    (Number.Numeral.isNumeralChar_of_read? hNumeral c hc)⟩

/-- The text of a multi-polygon without NaN coordinates reads back, with its empty parts and with
the signs of its zeros. -/
theorem parse_toText {shape : Shape} (hShape : Reachable .binary64 shape)
    (hNumbers : ∀ point ∈ shape.points, point.x.isNaN = false ∧ point.y.isNaN = false) :
    parse shape.toText = .ok shape := by
  have hPoints : ∀ point ∈ shape.points, FaithfulPoint .binary64 point := by
    intro point hPoint
    obtain ⟨hX, hY⟩ := hNumbers point hPoint
    exact ⟨faithful_binary64 hX, faithful_binary64 hY⟩
  rw [parse, toText, String.toList_ofList, read_render hShape.wellFormed hPoints]
  rfl

/-- No polygon part is like another one: no rings, an empty ring and one with a point. -/
def sparse : Shape :=
  ((empty.pushPolygon []).pushPolygon [[], [⟨-0.0, 1.0 / 0.0⟩]]).pushPolygon [[]]

/-- Empty rings and polygons, a negative zero and an infinite coordinate. -/
theorem parse_toText_sparse :
    Reachable .binary64 sparse ∧
    (∀ point ∈ sparse.points, point.x.isNaN = false ∧ point.y.isNaN = false) ∧
    sparse.toText = "[[],[[],[(-0.0,inf)]],[[]]]" ∧
    parse sparse.toText = .ok sparse := by
  have hShape : Reachable .binary64 sparse :=
    ((Reachable.empty.pushPolygon _).pushPolygon _).pushPolygon _
  have hNumbers : ∀ point ∈ sparse.points,
      point.x.isNaN = false ∧ point.y.isNaN = false := by decide
  exact ⟨hShape, hNumbers, by decide, parse_toText hShape hNumbers⟩

end MultiPolygon

end DbClient
