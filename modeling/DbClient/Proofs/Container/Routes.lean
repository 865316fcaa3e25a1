import DbClient.Proofs.Container.Documents
import DbClient.Proofs.Container.Updating

/-! Routes of a whole multi-polygon into a container. Main statement: `Store.absorb_whole`, by
which containers, nested lists and documents of one multi-polygon are absorbed alike. -/

namespace DbClient

open MultiPolygon (Reachable)

variable {ι : Type} [Ord ι] [Std.TransOrd ι] [Std.LawfulEqOrd ι]

/-- The sources that carry a multi-polygon as a whole: containers that hold it or show its
elements, its nested lists, its documents, and itself. -/
inductive Carries (store : ShapeStore ι) (shape : Shape) : Source ι → Prop where
  | container {holder : ι} (hHolder : store.payload? holder = some shape) :
      Carries store shape (.container holder)
  | dynamicContainer {holder : ι} (hHolder : store.payload? holder = some shape) :
      Carries store shape (.dynamic (.container holder))
  | dynamicShape : Carries store shape (.dynamic (.shape shape))
  | nested : Carries store shape (.nested shape.toNested)
  | dynamicNested : Carries store shape (.dynamic (.nested shape.toNested))
  | array : Carries store shape (.array shape.toJson)
  | foreign {view : ContainerView} (hItems : view.items = shape.toJson)
      (hShown : view.isEmpty = false) : Carries store shape (.foreign view)

namespace Store

/-- The container holds the multi-polygon after an update. -/
def Absorbs (store : ShapeStore ι) (name : ι) (source : Source ι) (shape : Shape) : Prop :=
  ∃ next, (absorb name source).runIn store = (.ok (), next) ∧ next.payload? name = some shape

/-- The update fails and nothing is changed. -/
def Rejects (store : ShapeStore ι) (name : ι) (source : Source ι) (error : Error) : Prop :=
  (absorb name source).runIn store = (.error error, store)

variable [DecidableEq ι] {store : ShapeStore ι} {name : ι} {source : Source ι} {shape : Shape}

/-- A source that says to replace the payload is absorbed. -/
theorem absorbs_of_replace (hUpdate : source.update = .ok (.replace shape)) :
    store.Absorbs name source shape := by
  refine ⟨store.replace name shape, ?_, ?_⟩
  · rw [runIn_absorb, hUpdate]
    rfl
  · rw [payload?_replace, if_pos rfl]

omit [DecidableEq ι] in
/-- A container absorbs only one thing from a source. -/
theorem Absorbs.unique {other : Shape} (hFirst : store.Absorbs name source shape)
    (hSecond : store.Absorbs name source other) : shape = other := by
  obtain ⟨next, hRun, hShape⟩ := hFirst
  obtain ⟨last, hAgain, hOther⟩ := hSecond
  rw [hRun] at hAgain
  cases hAgain
  exact Option.some.inj (hShape.symm.trans hOther)

/-- A source whose payload depends on it alone is absorbed as this payload, if it has one. -/
theorem absorbs_replace_iff {result : Except Error Shape}
    (hUpdate : source.update = Update.replace <$> result) :
    store.Absorbs name source shape ↔ result = .ok shape := by
  cases result with
  | error fault =>
      constructor
      · rintro ⟨next, hRun, -⟩
        rw [runIn_absorb, hUpdate] at hRun
        cases hRun
      · intro hShape
        cases hShape
  | ok payload =>
      have hPayload : store.Absorbs name source payload := absorbs_of_replace hUpdate
      constructor
      · exact fun hShape => congrArg Except.ok (hPayload.unique hShape)
      · rintro hShape
        cases hShape
        exact hPayload

/-- A source that says to share a payload which is not empty is absorbed. -/
theorem absorbs_of_share {holder : ι} (hUpdate : source.update = .ok (.share holder))
    (hHolder : store.payload? holder = some shape) (hNonempty : shape.isEmpty = false) :
    store.Absorbs name source shape := by
  refine ⟨store.apply name (.share holder), ?_, ?_⟩
  · rw [runIn_absorb, hUpdate]
  · rw [payload?_apply, Update.applyTo, hHolder]
    dsimp only
    rw [hNonempty]
    exact Function.update_self _ _ _

omit [DecidableEq ι] in
theorem rejects_of_error {error : Error} (hUpdate : source.update = .error error) :
    store.Rejects name source error := by
  rw [Rejects, runIn_absorb, hUpdate]

omit [DecidableEq ι] in
/-- A source is rejected exactly if it says no update. -/
theorem rejects_iff {error : Error} :
    store.Rejects name source error ↔ source.update = .error error := by
  rw [Rejects, runIn_absorb]
  cases source.update <;> simp

/-- Every route takes a finite multi-polygon into a container. -/
theorem absorbs_of_carries (hShape : Reachable .binary64 shape)
    (hNonempty : shape.isEmpty = false) (hFinite : ∀ point ∈ shape.points, point.IsFinite)
    (hCarries : Carries store shape source) : store.Absorbs name source shape := by
  have hNested : MultiPolygon.ofCoordinates shape.toNested = .ok shape := by
    rw [MultiPolygon.ofCoordinates, hShape.wellFormed.ofNested_toNested]
    rfl
  have hDocuments := hShape.wellFormed.ofJson_toJson hNonempty hFinite
  cases hCarries with
  | container hHolder => exact absorbs_of_share rfl hHolder hNonempty
  | dynamicContainer hHolder => exact absorbs_of_share rfl hHolder hNonempty
  | dynamicShape => exact absorbs_of_replace rfl
  | nested =>
      apply absorbs_of_replace
      rw [Source.update, hNested]
      rfl
  | dynamicNested =>
      apply absorbs_of_replace
      rw [Source.update, DynamicData.update, hNested]
      rfl
  | array =>
      apply absorbs_of_replace
      rw [Source.update, hDocuments]
      rfl
  | @foreign view hItems hShown =>
      apply absorbs_of_replace
      rw [Source.update, hShown, hItems, hDocuments]
      rfl

/-- All routes agree: a finite multi-polygon that is not empty is absorbed as it is from whatever
carries it; nested lists of finite coordinates and their documents are absorbed alike, and
rejected alike if some point has not two coordinates; and the documents of a multi-polygon with
a coordinate that is not finite are rejected. -/
theorem absorb_whole (store : ShapeStore ι) (name : ι) :
    (∀ shape : Shape, Reachable .binary64 shape → shape.isEmpty = false →
      (∀ point ∈ shape.points, point.IsFinite) →
        ∀ source, Carries store shape source → store.Absorbs name source shape) ∧
    (∀ nested : NestedPolygons Float, nested ≠ [] →
      (∀ coordinates ∈ nested.flatten.flatten, ∀ x ∈ coordinates, x.isFinite = true) →
        ((∀ coordinates ∈ nested.flatten.flatten, coordinates.length = 2) ∧
          ∃ shape : Shape, shape.toNested = nested ∧
            store.Absorbs name (.nested nested) shape ∧
            store.Absorbs name (.array (Json.ofNested nested)) shape) ∨
        ((∃ coordinates ∈ nested.flatten.flatten, coordinates.length ≠ 2) ∧
          (∃ text, store.Rejects name (.nested nested) (.invalidPoint text)) ∧
          ∃ text, store.Rejects name (.array (Json.ofNested nested)) (.invalidPoint text))) ∧
    (∀ shape : Shape, Reachable .binary64 shape → (∃ point ∈ shape.points, ¬ point.IsFinite) →
      store.Rejects name (.array shape.toJson) (.numberFormat "null")) := by
  refine ⟨?_, ?_, ?_⟩
  · intro shape hShape hNonempty hFinite source hCarries
    exact absorbs_of_carries hShape hNonempty hFinite hCarries
  · intro nested hNonempty hFinite
    by_cases hBad : ∃ coordinates ∈ nested.flatten.flatten, coordinates.length ≠ 2
    · obtain ⟨nestedText, hCoordinates⟩ := MultiPolygon.ofCoordinates_eq_error hBad
      obtain ⟨documentText, hDocuments⟩ := MultiPolygon.ofJson_ofNested_eq_error hFinite hBad
      refine .inr ⟨hBad, ⟨nestedText, ?_⟩, documentText, ?_⟩
      · apply rejects_of_error
        rw [Source.update, hCoordinates]
        rfl
      · apply rejects_of_error
        rw [Source.update, hDocuments]
        rfl
    · have hPairs : ∀ coordinates ∈ nested.flatten.flatten, coordinates.length = 2 := by
        intro coordinates hCoordinates
        exact Decidable.of_not_not fun hLength => hBad ⟨coordinates, hCoordinates, hLength⟩
      obtain ⟨shape, hNested, hCoordinates, hDocuments⟩ :=
        MultiPolygon.exists_ofCoordinates_eq_ok hNonempty hFinite hPairs
      refine .inl ⟨hPairs, shape, hNested, ?_, ?_⟩
      · apply absorbs_of_replace
        rw [Source.update, hCoordinates]
        rfl
      · apply absorbs_of_replace
        rw [Source.update, hDocuments]
        rfl
  · intro shape hShape hInfinite
    apply rejects_of_error
    rw [Source.update, hShape.wellFormed.ofJson_toJson_eq_error hInfinite]
    rfl

/-- A multi-polygon with empty parts, nested lists with a point of three coordinates behind one of
two, and a multi-polygon with an infinite coordinate. -/
theorem absorb_whole_sparse :
    let shape : Shape :=
      ((MultiPolygon.ofPoint ⟨1, 2⟩).pushPolygon [[], [⟨3, -0.0⟩]]).pushPolygon []
    let ragged : NestedPolygons Float := [[[[1, 2], [3, 4, 5]]]]
    let infinite : Shape := .ofPoint ⟨1, 1 / 0⟩
    let store : ShapeStore Nat := (empty.create 0 shape).create 1 .empty
    store.Absorbs 1 (.container 0) shape ∧
    store.Absorbs 1 (.nested shape.toNested) shape ∧
    store.Absorbs 1 (.array shape.toJson) shape ∧
    store.Absorbs 1 (.foreign ⟨.polygon, shape.toJson, false, true⟩) shape ∧
    (∃ text, store.Rejects 1 (.nested ragged) (.invalidPoint text)) ∧
    (∃ text, store.Rejects 1 (.array (Json.ofNested ragged)) (.invalidPoint text)) ∧
    store.Rejects 1 (.array infinite.toJson) (.numberFormat "null") := by
  intro shape ragged infinite store
  obtain ⟨hWhole, hNested, hInfinite⟩ := absorb_whole store 1
  have hShape : Reachable .binary64 shape := ((Reachable.ofPoint _).pushPolygon _).pushPolygon _
  have hAbsorbs := hWhole shape hShape rfl (by decide)
  refine ⟨hAbsorbs _ (.container rfl), hAbsorbs _ .nested, hAbsorbs _ .array,
    hAbsorbs _ (.foreign rfl rfl), ?_⟩
  rcases hNested ragged nofun (by decide) with ⟨hPairs, -⟩ | ⟨-, hRejected⟩
  · exact absurd hPairs (by decide)
  · exact ⟨hRejected.1, hRejected.2, hInfinite infinite (.ofPoint _) (by decide)⟩

/-- A container of another kind that reports itself empty empties the other one, whatever elements
it shows. -/
theorem not_absorbs_foreign_empty :
    let shape : Shape := .ofPoint ⟨1, 2⟩
    let view : ContainerView := ⟨.polygon, shape.toJson, true, true⟩
    let store : ShapeStore Nat := empty.create 0 .empty
    Reachable .binary64 shape ∧ shape.isEmpty = false ∧
    (∀ point ∈ shape.points, point.IsFinite) ∧
    view.kind ≠ .multiPolygon ∧ view.items = shape.toJson ∧
    store.Absorbs 0 (.foreign view) .empty ∧ ¬ store.Absorbs 0 (.foreign view) shape := by
  intro shape view store
  have hEmptied : store.Absorbs 0 (.foreign view) .empty := absorbs_of_replace rfl
  refine ⟨.ofPoint _, rfl, by decide, by decide, rfl, hEmptied, ?_⟩
  rintro ⟨next, hRun, hPayload⟩
  obtain ⟨emptied, hEmptied, hNone⟩ := hEmptied
  rw [hRun] at hEmptied
  cases hEmptied
  have hSame : shape = .empty := Option.some.inj (hPayload.symm.trans hNone)
  exact absurd (congrArg MultiPolygon.isEmpty hSame) (by decide)

end Store

end DbClient
