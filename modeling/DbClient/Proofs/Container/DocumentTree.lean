import DbClient.Proofs.Container.PointRule
import Mathlib.Data.List.Forall2

/-! Arrays of documents, node by node. Main statement: `Store.absorb_array_exactly`, by which an
array is absorbed exactly if it is a whole multi-polygon or a single point, and is otherwise
rejected for the first node that is not what it has to be, depth first and from left to right. -/

namespace DbClient

variable {ι α β ε : Type}

/-- A list of results succeeds exactly if all of them do, with their values in order. -/
theorem mapM_eq_ok_iff_forall₂ {f : α → Except ε β} {items : List α} {values : List β} :
    items.mapM f = .ok values ↔
      List.Forall₂ (fun item value => f item = .ok value) items values := by
  induction items generalizing values with
  | nil => cases values <;> simp [pure, Except.pure]
  | cons item rest ih =>
      rw [mapM_cons_eq_ok_iff, List.forall₂_cons_left_iff]
      simp only [ih, eq_comm, exists_and_left]

namespace Json

/-! ### What documents denote -/

/-- The number that a document denotes: numbers denote themselves, and strings what their text
does without the blanks around it. -/
def number? : Json → Option Float
  | integer value => some (Number.floatOfInt value)
  | float value => some value
  | string text => Number.readFloat? (Text.trim text.toList)
  | _ => none

/-- A document that denotes no number is shown without quotes if it is a string. -/
def shown : Json → String
  | string text => text
  | document => document.toText

theorem read_eq (document : Json) :
    Coordinate.read document = match document.number? with
      | some x => .ok x
      | none => .error (.numberFormat document.shown) := by
  cases document <;> rfl

theorem read_eq_ok_iff {document : Json} {x : Float} :
    Coordinate.read document = .ok x ↔ document.number? = some x := by
  rw [read_eq]
  cases document.number? <;> simp

/-- A point is an array of exactly two documents that denote numbers. -/
def DenotesPoint (document : Json) (point : Point Float) : Prop :=
  ∃ first second, document = .array [first, second] ∧ first.number? = some point.x ∧
    second.number? = some point.y

/-- The elements of an array denote these values, one by one. -/
def IsArrayOf (Denotes : Json → β → Prop) (document : Json) (values : List β) : Prop :=
  ∃ items, document = .array items ∧ List.Forall₂ Denotes items values

/-- A polygon is an array of rings, which are arrays of points. -/
def DenotesPolygon : Json → List (List (Point Float)) → Prop :=
  IsArrayOf (IsArrayOf DenotesPoint)

/-- The documents are the polygons of a multi-polygon, of which there is any. -/
def AreWhole (items : List Json) (shape : Shape) : Prop :=
  items ≠ [] ∧ ∃ polygons, List.Forall₂ DenotesPolygon items polygons ∧
    shape = .ofPolygons polygons ∧
    shape.toNested = polygons.map (List.map (List.map Point.toList))

/-- The documents are the two coordinates of a point. -/
def ArePair (items : List Json) (shape : Shape) : Prop :=
  ∃ first second x y, items = [first, second] ∧ first.number? = some x ∧
    second.number? = some y ∧ shape = .ofPoint ⟨x, y⟩

/-! ### What is wrong with documents -/

/-- What a document has to be at its place. -/
inductive Place where
  | coordinate
  | point
  /-- An array of parts, which are called so in messages. -/
  | list (parts : String) (part : Place)

def Place.ring : Place := .list "points" .point

def Place.polygon : Place := .list "rings" .ring

/-- A document and everything below it, depth first and from left to right. -/
def nodes : Place → Json → List (Place × Json)
  | .coordinate, document => [(.coordinate, document)]
  | .point, document =>
    (.point, document) :: (document.items?.getD []).map (.coordinate, ·)
  | .list parts part, document =>
    (.list parts part, document) :: (document.items?.getD []).flatMap (nodes part)

def notArray (parts : String) (document : Json) : Error :=
  .invalidInput ("Expected an array of " ++ parts ++ ", got " ++ document.toText)

/-- What is wrong with a document at its place, whatever is wrong with the documents below. -/
def offence? : Place × Json → Option Error
  | (.coordinate, document) =>
    if document.number?.isSome then none else some (.numberFormat document.shown)
  | (.point, document) => match document.items? with
    | none => some (notArray "coordinates" document)
    | some items => if items.length = 2 then none else some (.invalidPoint document.toText)
  | (.list parts _, document) => match document.items? with
    | none => some (notArray parts document)
    | some _ => none

/-- The first offence of a whole multi-polygon if all documents are arrays and there is any, else
that of a point. -/
def firstOffence? (items : List Json) : Option Error :=
  if !items.isEmpty && items.all isArray then (items.flatMap (nodes .polygon)).findSome? offence?
  else if items.length = 2 then (items.flatMap (nodes .coordinate)).findSome? offence?
  else some (.invalidPoint (coordinatesText items))

/-- A document is refused as a coordinate exactly if it is an offence. -/
theorem faultOf_read (document : Json) :
    faultOf (Coordinate.read document) = offence? (.coordinate, document) := by
  rw [read_eq, offence?]
  cases document.number? <;> rfl

/-- The documents of a list are visited one after another. -/
theorem findSome?_flatMap_nodes (place : Place) (items : List Json) :
    (items.flatMap (nodes place)).findSome? offence? =
      items.findSome? fun document => (nodes place document).findSome? offence? := by
  rw [List.flatMap_def, findSome?_flatten, List.findSome?_map]
  rfl

end Json

namespace MultiPolygon

open Json

/-! ### Reading documents -/

/-- Of two coordinates the first one that fails is the fault. -/
theorem faultOf_pointOf_documents (first second : Json) :
    faultOf (pointOf [first, second]) =
      [(Place.coordinate, first), (.coordinate, second)].findSome? offence? := by
  rw [faultOf_pointOf_pair, faultOf_read, faultOf_read, List.findSome?_cons]
  cases offence? (.coordinate, first) with
  | none => exact (List.findSome?_singleton ..).symm
  | some fault => rfl

theorem elements_eq (parts : String) (document : Json) :
    elements parts document = match document.items? with
      | some items => .ok items
      | none => .error (notArray parts document) :=
  rfl

theorem elements_eq_ok_iff {parts : String} {document : Json} {items : List Json} :
    elements parts document = .ok items ↔ document = .array items := by
  cases document <;> simp [elements, Json.items?]

/-- The elements of a point are counted first, and then read as any two coordinates. -/
theorem pointOfJson_eq (document : Json) :
    pointOfJson document = elements "coordinates" document >>= fun items =>
      if items.length = 2 then pointOf items else .error (.invalidPoint document.toText) := by
  unfold pointOfJson
  apply congrArg (elements "coordinates" document >>= ·)
  funext items
  match items with
  | [] => rfl
  | [_] => rfl
  | [_, _] => rfl
  | _ :: _ :: _ :: _ => rfl

/-- A document is read as a point exactly if it denotes one. -/
theorem pointOfJson_eq_ok_iff {document : Json} {point : Point Float} :
    pointOfJson document = .ok point ↔ DenotesPoint document point := by
  rw [pointOfJson_eq, bind_eq_ok_iff]
  constructor
  · rintro ⟨items, hItems, hPoint⟩
    split at hPoint
    · obtain ⟨first, second, rfl, hFirst, hSecond⟩ := pointOf_eq_ok_iff.mp hPoint
      exact ⟨first, second, elements_eq_ok_iff.mp hItems, Json.read_eq_ok_iff.mp hFirst,
        Json.read_eq_ok_iff.mp hSecond⟩
    · cases hPoint
  · rintro ⟨first, second, hDocument, hFirst, hSecond⟩
    refine ⟨[first, second], elements_eq_ok_iff.mpr hDocument, (if_pos rfl).trans ?_⟩
    exact pointOf_eq_ok_iff.mpr ⟨first, second, rfl, Json.read_eq_ok_iff.mpr hFirst,
      Json.read_eq_ok_iff.mpr hSecond⟩

/-- A point fails for itself, or else for the first coordinate that fails. -/
theorem faultOf_pointOfJson (document : Json) :
    faultOf (pointOfJson document) = (nodes .point document).findSome? offence? := by
  rw [pointOfJson_eq, elements_eq, nodes, List.findSome?_cons, offence?]
  cases hItems : document.items? with
  | none => rfl
  | some items =>
      by_cases hLength : items.length = 2
      · obtain ⟨first, second, rfl⟩ := List.length_eq_two.mp hLength
        exact faultOf_pointOf_documents first second
      · simp only [bind, Except.bind, if_neg hLength]
        rfl

theorem elements_bind_mapM_eq_ok_iff {f : Json → Except Error β} {Denotes : Json → β → Prop}
    (hItem : ∀ document value, f document = .ok value ↔ Denotes document value)
    (parts : String) (document : Json) (values : List β) :
    elements parts document >>= List.mapM f = .ok values ↔ IsArrayOf Denotes document values := by
  simp only [bind_eq_ok_iff, elements_eq_ok_iff, mapM_eq_ok_iff_forall₂, hItem, IsArrayOf]

/-- An array fails for itself, or else for the first node of its elements that fails. -/
theorem faultOf_elements_bind_mapM {f : Json → Except Error β} {part : Place}
    (hItem : ∀ document, faultOf (f document) = (nodes part document).findSome? offence?)
    (parts : String) (document : Json) :
    faultOf (elements parts document >>= List.mapM f) =
      (nodes (.list parts part) document).findSome? offence? := by
  rw [elements_eq, nodes, List.findSome?_cons, offence?]
  cases hItems : document.items? with
  | none => rfl
  | some items =>
      refine (faultOf_mapM f items).trans ?_
      rw [Option.getD_some, findSome?_flatMap_nodes]
      exact congrArg items.findSome? (funext hItem)

theorem polygonOfJson_eq_ok_iff (document : Json) (rings : List (List (Point Float))) :
    polygonOfJson document = .ok rings ↔ DenotesPolygon document rings :=
  elements_bind_mapM_eq_ok_iff (elements_bind_mapM_eq_ok_iff (fun _ _ => pointOfJson_eq_ok_iff) _)
    _ document rings

theorem faultOf_polygonOfJson_eq (document : Json) :
    faultOf (polygonOfJson document) = (nodes .polygon document).findSome? offence? :=
  faultOf_elements_bind_mapM (faultOf_elements_bind_mapM faultOf_pointOfJson _) _ document

/-! ### Arrays of documents as a whole -/

/-- Documents that denote polygons are arrays. -/
theorem all_isArray_of_forall₂ {items : List Json} {polygons : List (List (List (Point Float)))}
    (hItems : List.Forall₂ DenotesPolygon items polygons) : items.all isArray = true := by
  induction hItems with
  | nil => rfl
  | cons hPolygon hRest ih =>
      obtain ⟨rings, rfl, -⟩ := hPolygon
      exact ih

/-- Arrays are no coordinates, so that no array of documents can be read in both ways. -/
theorem not_arePair_of_all_isArray {items : List Json} (hArrays : items.all isArray = true)
    (shape : Shape) : ¬ ArePair items shape := by
  rintro ⟨first, second, x, y, rfl, hFirst, -, -⟩
  cases first with
  | array documents => cases hFirst
  | _ => cases hArrays

/-- An array is read exactly if it is a whole multi-polygon or a single point. -/
theorem ofJson_eq_ok_iff {items : List Json} {shape : Shape} :
    ofJson items = .ok shape ↔ AreWhole items shape ∨ ArePair items shape := by
  unfold ofJson
  split
  · rename_i hArrays
    obtain ⟨hSome, hArrays⟩ := Bool.and_eq_true_iff.mp hArrays
    have hNonempty : items ≠ [] := by simpa using hSome
    refine map_eq_ok_iff.trans ?_
    simp only [mapM_eq_ok_iff_forall₂, polygonOfJson_eq_ok_iff]
    constructor
    · rintro ⟨polygons, hPolygons, rfl⟩
      refine .inl ⟨hNonempty, polygons, hPolygons, rfl, ?_⟩
      rw [toNested, polygons_ofPolygons]
    · rintro (⟨-, polygons, hPolygons, rfl, -⟩ | hPair)
      · exact ⟨polygons, hPolygons, rfl⟩
      · exact absurd hPair (not_arePair_of_all_isArray hArrays shape)
  · rename_i hArrays
    refine map_eq_ok_iff.trans ?_
    constructor
    · rintro ⟨point, hPoint, rfl⟩
      obtain ⟨first, second, hItems, hFirst, hSecond⟩ := pointOf_eq_ok_iff.mp hPoint
      exact .inr ⟨first, second, point.x, point.y, hItems, Json.read_eq_ok_iff.mp hFirst,
        Json.read_eq_ok_iff.mp hSecond, rfl⟩
    · rintro (⟨hNonempty, polygons, hPolygons, -⟩ | ⟨first, second, x, y, hItems, hFirst, hSecond, rfl⟩)
      · refine absurd (Bool.and_eq_true_iff.mpr ⟨?_, all_isArray_of_forall₂ hPolygons⟩) hArrays
        simpa using hNonempty
      · refine ⟨⟨x, y⟩, pointOf_eq_ok_iff.mpr ⟨first, second, hItems, ?_, ?_⟩, rfl⟩
        · exact Json.read_eq_ok_iff.mpr hFirst
        · exact Json.read_eq_ok_iff.mpr hSecond

/-- An array fails at the first node that is not what it has to be. -/
theorem faultOf_ofJson_eq (items : List Json) : faultOf (ofJson items) = firstOffence? items := by
  unfold ofJson firstOffence?
  split
  · rw [faultOf_map, faultOf_mapM, findSome?_flatMap_nodes]
    exact congrArg items.findSome? (funext faultOf_polygonOfJson_eq)
  · rw [faultOf_map]
    split
    · rename_i hLength
      obtain ⟨first, second, rfl⟩ := List.length_eq_two.mp hLength
      exact faultOf_pointOf_documents first second
    · rename_i hLength
      rw [pointOf_of_length hLength]
      rfl

end MultiPolygon

namespace Store

open Json

variable [Ord ι] [Std.TransOrd ι] [Std.LawfulEqOrd ι] [DecidableEq ι]

/-- An array of documents is absorbed exactly if it is a whole multi-polygon, with its empty
polygons and rings, or a single point. Otherwise it is rejected for the first node that is not
what it has to be, and nothing is changed. -/
theorem absorb_array_exactly (store : ShapeStore ι) (name : ι) (items : List Json) :
    (∀ shape, store.Absorbs name (.array items) shape ↔
      AreWhole items shape ∨ ArePair items shape) ∧
    (∀ error, store.Rejects name (.array items) error ↔ firstOffence? items = some error) ∧
    ((∃ shape, store.Absorbs name (.array items) shape) ∨
      ∃ error, store.Rejects name (.array items) error) := by
  have hAbsorbs (shape : Shape) : store.Absorbs name (.array items) shape ↔
      MultiPolygon.ofJson items = .ok shape :=
    absorbs_replace_iff rfl
  have hRejects (error : Error) : store.Rejects name (.array items) error ↔
      MultiPolygon.ofJson items = .error error := by
    rw [rejects_iff, ← faultOf_eq_some_iff, ← faultOf_eq_some_iff, Source.update, faultOf_map]
  refine ⟨?_, ?_, ?_⟩
  · intro shape
    exact (hAbsorbs shape).trans MultiPolygon.ofJson_eq_ok_iff
  · intro error
    rw [hRejects, ← faultOf_eq_some_iff, MultiPolygon.faultOf_ofJson_eq]
  · cases hResult : MultiPolygon.ofJson items with
    | ok shape => exact .inl ⟨shape, (hAbsorbs shape).mpr hResult⟩
    | error error => exact .inr ⟨error, (hRejects error).mpr hResult⟩

/-- Behind an empty polygon, an empty ring and a point of a number and a text, a point of one
coordinate comes before a ring that is no array. -/
theorem absorb_array_broken :
    let store : ShapeStore Nat := empty.create 0 (.ofPoint ⟨7, 8⟩)
    let point : Json := .array [.integer 1, .string " 2 "]
    let whole : List Json := [.array [], .array [.array [], .array [point]]]
    let broken : List Json := whole ++ [.array [.array [.array [.null]], .bool true]]
    store.Absorbs 0 (.array whole) (.ofPolygons [[], [[], [⟨1, 2⟩]]]) ∧
    store.Rejects 0 (.array broken) (.invalidPoint "[null]") ∧
    store.Rejects 0 (.array [.array [], .null]) (.numberFormat "[]") := by
  intro store point whole broken
  have hPoint : DenotesPoint point ⟨1, 2⟩ := ⟨_, _, rfl, rfl, by decide⟩
  have hRings : IsArrayOf (IsArrayOf DenotesPoint) (.array [.array [], .array [point]])
      [[], [⟨1, 2⟩]] :=
    ⟨_, rfl, .cons ⟨[], rfl, .nil⟩ (.cons ⟨[point], rfl, .cons hPoint .nil⟩ .nil)⟩
  have hWhole : List.Forall₂ DenotesPolygon whole [[], [[], [⟨1, 2⟩]]] :=
    .cons ⟨[], rfl, .nil⟩ (.cons hRings .nil)
  refine ⟨?_, ?_, ?_⟩
  · exact ((absorb_array_exactly store 0 whole).1 _).mpr
      (.inl ⟨List.cons_ne_nil _ _, _, hWhole, rfl, by decide⟩)
  · exact ((absorb_array_exactly store 0 broken).2.1 _).mpr (by decide)
  · exact ((absorb_array_exactly store 0 _).2.1 _).mpr (by decide)

end Store

end DbClient
