import DbClient.Container.ShapeStore
import DbClient.Proofs.Fault
import DbClient.Proofs.Geo.Nested
import Mathlib.Logic.Function.Basic

/-! Updates of containers. Main statement: `absorb_all_or_nothing`, by which an update either
gives a container a payload that depends on the source alone, or fails for a reason that depends
on the source alone and changes nothing. -/

namespace DbClient

variable {ι : Type}

/-! ### What containers show -/

/-- What every container shows, if it is there. -/
abbrev View (ι : Type) := ι → Option Shape

/-- The same containers after one of them was made a copy of another one, if that is there. -/
def View.copy [DecidableEq ι] (view : View ι) (name source : ι) : View ι :=
  match view source with
  | none => view
  | some payload => Function.update view name (some payload)

/-- The same containers with an update done to one of them, where no payload is shared. -/
def Update.applyTo [DecidableEq ι] (name : ι) (view : View ι) : Update ι → View ι
  | replace payload => Function.update view name (some payload)
  | share source =>
    match view source with
    | none => view
    | some payload =>
      Function.update view name (some (if payload.isEmpty then .empty else payload))

namespace Store

variable [Ord ι] [Std.TransOrd ι] [Std.LawfulEqOrd ι]

/-- An update is computed before anything is written. -/
theorem runIn_absorb (name : ι) (source : Source ι) (store : ShapeStore ι) :
    (absorb name source).runIn store =
      match source.update with
      | .error error => (.error error, store)
      | .ok update => (.ok (), store.apply name update) := by
  unfold absorb Procedure.runIn
  cases source.update <;> rfl

variable [DecidableEq ι]

theorem payload?_replace_eq (store : ShapeStore ι) (name : ι) (payload : Shape) :
    (store.replace name payload).payload? = Function.update store.payload? name (some payload) := by
  funext other
  rw [payload?_replace, Function.update_apply]

/-- Sharing is seen like copying. -/
theorem payload?_share_eq (store : ShapeStore ι) (name source : ι) :
    (store.share name source).payload? = View.copy store.payload? name source := by
  funext other
  rw [payload?_share, isSome_cell?, View.copy]
  cases hSource : store.payload? source with
  | none => simp
  | some payload => simp [Function.update_apply]

/-- Sharing cannot be seen. -/
theorem payload?_apply (store : ShapeStore ι) (name : ι) (update : Update ι) :
    (store.apply name update).payload? = update.applyTo name store.payload? := by
  cases update with
  | replace payload => exact payload?_replace_eq store name payload
  | share source =>
      cases hSource : store.payload? source with
      | none => simp only [apply, Update.applyTo, hSource]
      | some payload =>
          simp only [apply, Update.applyTo, hSource]
          split
          · exact payload?_replace_eq store name .empty
          · rw [payload?_share_eq, View.copy, hSource]

end Store

/-! ### What can go wrong -/

/-- An element of data that can be no more than a point: the number that it denotes, or its text
if it denotes none. -/
abbrev Element := Except String Float

/-- Texts denote numbers without the blanks around them. -/
def Scalar.element (scalar : Scalar) : Element :=
  match scalar.float?.or (Number.readFloat? (Text.trim scalar.chars)) with
  | some x => .ok x
  | none => .error scalar.toText

/-- Sources by what can go wrong with them. -/
inductive SourceForm where
  /-- Null, containers of the same kind, multi-polygons and points. -/
  | payload
  /-- Data of a type that is never a multi-polygon. -/
  | unsupported (typeName : String)
  /-- Data that are a point, or nothing. -/
  | point (elements : List Element)
  | nested (polygons : NestedPolygons Float)
  /-- Arrays of documents, and containers of other kinds. -/
  | documents

namespace Source

/-- A cursor is read up to its third element. -/
def form : Source ι → SourceForm
  | null => .payload
  | scalar value => .unsupported value.typeName
  | primitives values => .point (values.toFloats.map .ok)
  | collection items => .point (items.map Scalar.element)
  | sequence cursor => .point ((cursor.take 3).1.map Scalar.element)
  | mapping pairs => .point (pairs.map fun pair => pair.2.element)
  | container _ => .payload
  | foreign _ => .documents
  | array _ => .documents
  | nested polygons => .nested polygons
  | dynamic (.container _) => .payload
  | dynamic (.shape _) => .payload
  | dynamic (.nested polygons) => .nested polygons
  | dynamic (.point _) => .payload
  | dynamic (.doubles values) => .point (values.map .ok)
  | dynamic (.scalars items) => .point (items.map Scalar.element)
  | dynamic (.documents _) => .documents
  | dynamic (.scalar value) => .unsupported value.typeName
  | dynamic (.text _) => .unsupported "String"
  | dynamic .unknown => .unsupported "Object"

/-- The container that a source is. -/
def container? : Source ι → Option ι
  | container name => some name
  | dynamic (.container name) => some name
  | _ => none

/-- If the source is a container, then one with this payload. -/
def Shows [Ord ι] (source : Source ι) (store : ShapeStore ι) (payload : Shape) : Prop :=
  ∀ name, source.container? = some name → store.payload? name = some payload

end Source

/-- The faults of an array of documents. -/
def Error.IsDocumentFault (error : Error) : Prop :=
  error.code = "INVALID_POINT" ∨ error.code = "NUMBER_FORMAT" ∨ error.code = "INVALID_INPUT"

namespace SourceForm

/-- A point needs exactly two elements, whatever they are. Of two elements the first one that
denotes no number is the fault. -/
def AllowsPoint : List Element → Option Error → Prop
  | [first, second], fault? => fault? = ((faultOf first).or (faultOf second)).map .numberFormat
  | _, fault? => ∃ text, fault? = some (.invalidPoint text)

/-- The faults that sources of a form may have. Nested lists fail at the first point that has not
two coordinates. -/
def Allows : SourceForm → Option Error → Prop
  | payload, fault? => fault? = none
  | unsupported typeName, fault? =>
    fault? = some (.unsupportedConversion typeName "MultiPolygon")
  | point elements, fault? => AllowsPoint elements fault?
  | nested polygons, fault? =>
    fault? = (polygons.flatten.flatten.find? fun coordinates => coordinates.length ≠ 2).map
      fun coordinates => .invalidPoint (Number.floatsText coordinates)
  | documents, fault? => ∀ error, fault? = some error → error.IsDocumentFault

/-- Anything but two elements may fail as a point. -/
theorem allowsPoint_of_length {elements : List Element} (hLength : elements.length ≠ 2)
    (text : String) : AllowsPoint elements (some (.invalidPoint text)) := by
  match elements with
  | [] => exact ⟨text, rfl⟩
  | [element] => exact ⟨text, rfl⟩
  | [first, second] => exact absurd rfl hLength
  | first :: second :: third :: rest => exact ⟨text, rfl⟩

/-- A scalar is read as a coordinate by its element, and the fault is named for the text. -/
theorem read_scalar (scalar : Scalar) :
    Coordinate.read scalar = scalar.element.mapError .numberFormat := by
  simp only [Coordinate.read, readCoordinate, Scalar.element, Scalar.toText, String.toList_ofList]
  cases scalar.float? with
  | some x => rfl
  | none =>
      rw [Option.none_or]
      cases Number.readFloat? (Text.trim scalar.chars) <;> rfl

/-- Two scalars fail only for the first one that is no element, and others fail as a point. -/
theorem allowsPoint_scalars (items : List Scalar) :
    AllowsPoint (items.map Scalar.element) (faultOf (pointOf items)) := by
  match items with
  | [] => exact allowsPoint_of_length (by decide) _
  | [item] => exact ⟨_, rfl⟩
  | [first, second] =>
      simp only [pointOf, read_scalar, List.map_cons, List.map_nil]
      cases first.element with
      | error text => rfl
      | ok x => cases second.element <;> rfl
  | first :: second :: third :: rest => exact ⟨_, rfl⟩

/-- What a cursor has is judged by its first three items. -/
theorem allowsPoint_cursor (cursor : Cursor) :
    AllowsPoint ((cursor.take 3).1.map Scalar.element) (faultOf cursor.point.1) := by
  rw [Cursor.point]
  dsimp only
  split
  · rename_i hLength
    exact allowsPoint_of_length (by rw [List.length_map, hLength]; decide) _
  · exact allowsPoint_scalars _

/-- Primitive elements all denote numbers. -/
theorem allowsPoint_primitives (values : Primitives) :
    AllowsPoint (values.toFloats.map .ok) (faultOf values.point) := by
  rw [Primitives.point]
  split
  · rename_i x y hFloats
    rw [hFloats]
    rfl
  · rename_i hFloats
    refine allowsPoint_of_length ?_ _
    rw [List.length_map]
    intro hLength
    obtain ⟨x, y, hPair⟩ := List.length_eq_two.mp hLength
    exact hFloats x y hPair

theorem allows_nested (polygons : NestedPolygons Float) :
    (nested polygons).Allows (faultOf (MultiPolygon.ofCoordinates polygons)) := by
  rw [Allows, MultiPolygon.ofCoordinates, faultOf_mapError, MultiPolygon.faultOf_ofNested]

end SourceForm

/-! ### Arrays of documents -/

namespace MultiPolygon

/-- What is no array is a fault of the document. -/
theorem isDocumentFault_elements {parts : String} {document : Json} {error : Error}
    (hFault : elements parts document = .error error) : error.IsDocumentFault := by
  unfold elements at hFault
  split at hFault
  · cases hFault
  · cases hFault
    exact .inr (.inr rfl)

/-- What is no number is a fault of the document. -/
theorem isDocumentFault_read {document : Json} {error : Error}
    (hFault : Coordinate.read document = .error error) : error.IsDocumentFault := by
  have hText : ∀ text,
      Except.error (Error.numberFormat text) = (.error error : Except Error Float) →
      error.IsDocumentFault := by
    intro text hText
    cases hText
    exact .inr (.inl rfl)
  cases document with
  | string text =>
      simp only [Coordinate.read, readCoordinate] at hFault
      split at hFault
      · cases hFault
      · exact hText _ hFault
  | integer value => cases hFault
  | float value => cases hFault
  | null => exact hText _ hFault
  | bool value => exact hText _ hFault
  | array items => exact hText _ hFault
  | object members => exact hText _ hFault

/-- Both coordinates of a point are read in the same way wherever they stand. -/
theorem isDocumentFault_pair {first second : Json} {error : Error}
    (hFault : (do
      let x ← Coordinate.read first
      let y ← Coordinate.read second
      return ⟨x, y⟩ : Except Error (Point Float)) = .error error) : error.IsDocumentFault := by
  rcases bind_eq_error_iff.mp hFault with hFirst | ⟨x, -, hFault⟩
  · exact isDocumentFault_read hFirst
  · rcases bind_eq_error_iff.mp hFault with hSecond | ⟨y, -, hFault⟩
    · exact isDocumentFault_read hSecond
    · cases hFault

theorem isDocumentFault_pointOf {items : List Json} {error : Error}
    (hFault : pointOf items = .error error) : error.IsDocumentFault := by
  unfold pointOf at hFault
  split at hFault
  · exact isDocumentFault_pair hFault
  · cases hFault
    exact .inl rfl

/-- What is no point is a fault of the document. -/
theorem isDocumentFault_pointOfJson {document : Json} {error : Error}
    (hFault : pointOfJson document = .error error) : error.IsDocumentFault := by
  rcases bind_eq_error_iff.mp hFault with hElements | ⟨items, -, hFault⟩
  · exact isDocumentFault_elements hElements
  · split at hFault
    · exact isDocumentFault_pair hFault
    · cases hFault
      exact .inl rfl

/-- The elements of an array fail as the array or as one of them. -/
theorem isDocumentFault_mapM {α : Type} {f : Json → Except Error α} {parts : String}
    (hItem : ∀ {document : Json} {error : Error}, f document = .error error → error.IsDocumentFault)
    {document : Json} {error : Error}
    (hFault : elements parts document >>= List.mapM f = .error error) :
    error.IsDocumentFault := by
  rcases bind_eq_error_iff.mp hFault with hElements | ⟨items, -, hFault⟩
  · exact isDocumentFault_elements hElements
  · obtain ⟨item, -, hFault⟩ := exists_eq_error_of_mapM hFault
    exact hItem hFault

theorem isDocumentFault_polygonOfJson {document : Json} {error : Error}
    (hFault : polygonOfJson document = .error error) : error.IsDocumentFault :=
  isDocumentFault_mapM (isDocumentFault_mapM isDocumentFault_pointOfJson) hFault

/-- Whatever is wrong in an array is a fault of the document. -/
theorem isDocumentFault_ofJson {items : List Json} {error : Error}
    (hFault : ofJson items = .error error) : error.IsDocumentFault := by
  rw [← faultOf_eq_some_iff, ofJson] at hFault
  split at hFault
  · rw [faultOf_map, faultOf_eq_some_iff] at hFault
    obtain ⟨item, -, hFault⟩ := exists_eq_error_of_mapM hFault
    exact isDocumentFault_polygonOfJson hFault
  · rw [faultOf_map, faultOf_eq_some_iff] at hFault
    exact isDocumentFault_pointOf hFault

end MultiPolygon

/-! ### Updates as a whole -/

/-- Data of any kind fails only as its form allows. -/
theorem DynamicData.allows_update (data : DynamicData ι) :
    (Source.dynamic data).form.Allows (faultOf data.update) := by
  cases data with
  | container name => rfl
  | shape value => rfl
  | nested polygons =>
      rw [DynamicData.update, faultOf_map]
      exact SourceForm.allows_nested polygons
  | point value => rfl
  | doubles values =>
      rw [DynamicData.update, faultOf_map]
      exact SourceForm.allowsPoint_primitives (.doubles values)
  | scalars items =>
      rw [DynamicData.update, faultOf_map]
      exact SourceForm.allowsPoint_scalars items
  | documents items =>
      rw [DynamicData.update, faultOf_map]
      exact fun error hFault => MultiPolygon.isDocumentFault_ofJson (faultOf_eq_some_iff.mp hFault)
  | scalar value => rfl
  | text value => rfl
  | unknown => rfl

/-- Every source fails as its form says. -/
theorem Source.allows_update (source : Source ι) :
    source.form.Allows (faultOf source.update) := by
  cases source with
  | null => rfl
  | scalar value => rfl
  | primitives values =>
      rw [Source.update, faultOf_map]
      exact SourceForm.allowsPoint_primitives values
  | collection items =>
      rw [Source.update, faultOf_map]
      exact SourceForm.allowsPoint_scalars items
  | sequence cursor =>
      rw [Source.update, faultOf_map]
      exact SourceForm.allowsPoint_cursor cursor
  | mapping pairs =>
      have hElements := SourceForm.allowsPoint_scalars (pairs.map Prod.snd)
      rw [List.map_map] at hElements
      rw [Source.update, faultOf_map]
      exact hElements
  | container name => rfl
  | foreign view =>
      intro error hFault
      rw [Source.update] at hFault
      split at hFault
      · cases hFault
      · rw [faultOf_map] at hFault
        exact MultiPolygon.isDocumentFault_ofJson (faultOf_eq_some_iff.mp hFault)
  | array items =>
      rw [Source.update, faultOf_map]
      exact fun error hFault => MultiPolygon.isDocumentFault_ofJson (faultOf_eq_some_iff.mp hFault)
  | nested polygons =>
      rw [Source.update, faultOf_map]
      exact SourceForm.allows_nested polygons
  | dynamic data => exact data.allows_update

/-- The container whose payload an update shares. -/
def Update.shared? : Update ι → Option ι
  | replace _ => none
  | share name => some name

/-- An update that makes a payload shares none. -/
theorem Update.shared?_of_map {α : Type} {make : α → Update ι}
    (hMake : ∀ value, (make value).shared? = none) {result : Except Error α} {update : Update ι}
    (hUpdate : make <$> result = .ok update) : update.shared? = none := by
  cases result with
  | error fault => cases hUpdate
  | ok value =>
      cases hUpdate
      exact hMake value

/-- Only a container that is handed over is shared. -/
theorem DynamicData.shared?_of_update {data : DynamicData ι} {update : Update ι}
    (hUpdate : data.update = .ok update) : update.shared? = (Source.dynamic data).container? := by
  cases data with
  | nested polygons => exact Update.shared?_of_map (fun _ => rfl) hUpdate
  | doubles values => exact Update.shared?_of_map (fun _ => rfl) hUpdate
  | scalars items => exact Update.shared?_of_map (fun _ => rfl) hUpdate
  | documents items => exact Update.shared?_of_map (fun _ => rfl) hUpdate
  | _ => cases hUpdate <;> rfl

/-- An update shares the payload of the container that the source is, and no other. -/
theorem Source.shared?_of_update {source : Source ι} {update : Update ι}
    (hUpdate : source.update = .ok update) : update.shared? = source.container? := by
  cases source with
  | primitives values => exact Update.shared?_of_map (fun _ => rfl) hUpdate
  | collection items => exact Update.shared?_of_map (fun _ => rfl) hUpdate
  | sequence cursor => exact Update.shared?_of_map (fun _ => rfl) hUpdate
  | mapping pairs => exact Update.shared?_of_map (fun _ => rfl) hUpdate
  | array items => exact Update.shared?_of_map (fun _ => rfl) hUpdate
  | nested polygons => exact Update.shared?_of_map (fun _ => rfl) hUpdate
  | foreign view =>
      rw [Source.update] at hUpdate
      split at hUpdate
      · cases hUpdate
        rfl
      · exact Update.shared?_of_map (fun _ => rfl) hUpdate
  | dynamic data => exact DynamicData.shared?_of_update hUpdate
  | _ => cases hUpdate <;> rfl

/-- The payload that an update gives a container, when the one that it shares is `shown`. -/
def Update.payload (shown : Shape) : Update ι → Shape
  | replace payload => payload
  | share _ => if shown.isEmpty then .empty else shown

/-- An update puts one payload at its name, whatever was there. -/
theorem Update.applyTo_eq [DecidableEq ι] {update : Update ι} {view : View ι} {shown : Shape}
    (hShown : ∀ source, update.shared? = some source → view source = some shown) (name : ι) :
    update.applyTo name view = Function.update view name (some (update.payload shown)) := by
  cases update with
  | replace payload => rfl
  | share source =>
      rw [applyTo, hShown source rfl]
      rfl

section

variable [Ord ι] [Std.TransOrd ι] [Std.LawfulEqOrd ι] [DecidableEq ι]

/-- An update gives every container the payload that the source says, whatever that container and
the others held before, or it fails in every container, and then all containers and what they share
stay as they were. The form of the source says with which faults it may fail. -/
theorem Store.absorb_all_or_nothing (source : Source ι) (shown : Shape) :
    source.form.Allows (faultOf (Update.payload shown <$> source.update)) ∧
      ∀ (store : ShapeStore ι) (name : ι), source.Shows store shown →
        match Update.payload shown <$> source.update with
        | .error error => (absorb name source).runIn store = (.error error, store)
        | .ok payload => ∃ next, (absorb name source).runIn store = (.ok (), next) ∧
            next.payload? name = some payload := by
  -- What is done is decided before any container is looked at.
  refine ⟨?_, ?_⟩
  · rw [faultOf_map]
    exact source.allows_update
  · intro store name hShown
    rw [runIn_absorb]
    cases hUpdate : source.update with
    | error error => rfl
    | ok update =>
        have hShared : ∀ other, update.shared? = some other →
            store.payload? other = some shown := by
          rw [Source.shared?_of_update hUpdate]
          exact hShown
        refine ⟨store.apply name update, rfl, ?_⟩
        rw [payload?_apply, Update.applyTo_eq hShared, Function.update_self]

end

/-- A failed update of a container that shares its payload. -/
theorem Store.absorb_text_fails :
    let shape : Shape := .ofPoint ⟨1, 2⟩
    let store : ShapeStore Nat := (empty.create 0 shape).copy 1 0 false
    let source : Source Nat := .sequence (.ofList [.text " 3 ", .text "x"])
    source.Shows store shape ∧
    (absorb 0 source).runIn store = (.error (.numberFormat "x"), store) ∧
    store.shares 0 1 = true := by
  intro shape store source
  have hShown : source.Shows store shape := by
    intro name hName
    cases hName
  obtain ⟨hAllows, hRun⟩ := absorb_all_or_nothing source shape
  have hFault : Update.payload shape <$> source.update = .error (.numberFormat "x") :=
    faultOf_eq_some_iff.mp hAllows
  have hAbsorbed := hRun store 0 hShown
  rw [hFault] at hAbsorbed
  exact ⟨hShown, hAbsorbed, by decide⟩

end DbClient
