import DbClient.Proofs.Container.Routes

/-! The point rule, whatever carries the data. Main statement: `Store.absorb_scalars_alike`, by
which collections, values of mappings, vectors, cursors and primitive elements are absorbed alike,
and only what is shown of too many elements tells a cursor from the others. -/

namespace DbClient

variable {ι : Type}

/-! ### The point rule for elements of any type -/

section

variable {α : Type} [Coordinate α]

/-- Two elements are a point exactly if both are coordinates. -/
theorem pointOf_eq_ok_iff {items : List α} {point : Point Float} :
    pointOf items = .ok point ↔
      ∃ first second, items = [first, second] ∧ Coordinate.read first = .ok point.x ∧
        Coordinate.read second = .ok point.y := by
  match items with
  | [] => simp [pointOf]
  | [item] => simp [pointOf]
  | first :: second :: third :: rest => simp [pointOf]
  | [first, second] =>
      constructor
      · intro hPoint
        rw [pointOf] at hPoint
        cases hFirst : Coordinate.read first with
        | error fault =>
            rw [hFirst] at hPoint
            cases hPoint
        | ok x =>
            cases hSecond : Coordinate.read second with
            | error fault =>
                rw [hFirst, hSecond] at hPoint
                cases hPoint
            | ok y =>
                rw [hFirst, hSecond] at hPoint
                cases hPoint
                exact ⟨first, second, rfl, hFirst, hSecond⟩
      · rintro ⟨_, _, hItems, hFirst, hSecond⟩
        cases hItems
        rw [pointOf, hFirst, hSecond]
        rfl

/-- Of two elements the first one that is no coordinate is the fault. -/
theorem faultOf_pointOf_pair (first second : α) :
    faultOf (pointOf [first, second]) =
      (faultOf (Coordinate.read first)).or (faultOf (Coordinate.read second)) := by
  rw [pointOf]
  cases Coordinate.read first with
  | error fault => rfl
  | ok x => cases Coordinate.read second <;> rfl

/-- Too few or too many elements are shown as they are. -/
theorem pointOf_of_length {items : List α} (hLength : items.length ≠ 2) :
    pointOf items = .error (.invalidPoint (coordinatesText items)) := by
  match items with
  | [] => rfl
  | [_] => rfl
  | [_, _] => exact absurd rfl hLength
  | _ :: _ :: _ :: _ => rfl

end

theorem Scalar.read_eq_ok_iff {scalar : Scalar} {x : Float} :
    Coordinate.read scalar = .ok x ↔ scalar.element = .ok x := by
  rw [SourceForm.read_scalar]
  cases scalar.element <;> simp [Except.mapError]

/-! ### Cursors -/

namespace Cursor

/-- The elements that a cursor has not taken yet are these and no others. -/
def IsOver (cursor : Cursor) (items : List Scalar) : Prop :=
  ∀ index ≤ items.length, cursor.element? (cursor.position + index) = items[index]?

/-- A cursor that never ends. -/
def Streams (cursor : Cursor) (stream : Nat → Scalar) : Prop :=
  ∀ index, cursor.element? (cursor.position + index) = some (stream index)

/-- The cursor of a list runs over its items and ends behind them. -/
theorem isOver_ofList (items : List Scalar) : (ofList items).IsOver items := by
  intro index _
  rw [ofList, Nat.zero_add]

/-- The cursor of all integers from one on never ends. -/
theorem streams_ofIntegers (first : Int32) :
    (ofIntegers first).Streams fun index => .int (first + .ofNat index) := by
  intro index
  rw [ofIntegers, Nat.zero_add]

/-- What is taken depends on no more places than so many, and on none behind the end. -/
theorem take_eq {cursor : Cursor} {items : List Scalar} (count : Nat)
    (hItems : ∀ index < count, index ≤ items.length →
      cursor.element? (cursor.position + index) = items[index]?) :
    cursor.take count =
      (items.take count, { cursor with position := cursor.position + min count items.length }) := by
  induction count generalizing cursor items with
  | zero => rw [Nat.zero_min]; rfl
  | succ count ih =>
      have hFirst := hItems 0 (Nat.succ_pos count) (Nat.zero_le _)
      rw [Nat.add_zero] at hFirst
      cases items with
      | nil =>
          rw [take, hFirst]
          rfl
      | cons item rest =>
          have hNext : ∀ index < count, index ≤ rest.length →
              cursor.element? (cursor.position + 1 + index) = rest[index]? := by
            intro index hCount hLength
            rw [Nat.add_assoc, Nat.add_comm 1]
            exact hItems (index + 1) (Nat.succ_lt_succ hCount) (Nat.succ_le_succ hLength)
          rw [take, hFirst]
          have hRest := @ih { cursor with position := cursor.position + 1 } rest hNext
          dsimp only [List.getElem?_cons_zero]
          rw [hRest, List.length_cons, Nat.succ_min_succ, Nat.add_assoc, Nat.add_comm 1]
          rfl

/-- From a cursor that ends, at most three items are taken. -/
theorem IsOver.take_three {cursor : Cursor} {items : List Scalar} (hOver : cursor.IsOver items) :
    cursor.take 3 =
      (items.take 3, { cursor with position := cursor.position + min 3 items.length }) :=
  take_eq 3 fun index _ => hOver index

/-- From a cursor that never ends, exactly three items are taken. -/
theorem Streams.take_three {cursor : Cursor} {stream : Nat → Scalar}
    (hStreams : cursor.Streams stream) :
    cursor.take 3 =
      ([stream 0, stream 1, stream 2], { cursor with position := cursor.position + 3 }) := by
  have hItems : ∀ index < 3, index ≤ [stream 0, stream 1, stream 2].length →
      cursor.element? (cursor.position + index) = [stream 0, stream 1, stream 2][index]? := by
    intro index hIndex _
    rw [hStreams index]
    match index, hIndex with
    | 0, _ => rfl
    | 1, _ => rfl
    | 2, _ => rfl
  exact take_eq 3 hItems

/-- What is shown of three or more elements. -/
def firstThree (items : List Scalar) : String :=
  Text.bracketed ((items.take 3).map Scalar.toText ++ ["..."])

/-- A third item is one too many, whatever comes behind it. -/
theorem point_of_take {cursor : Cursor} {taken : List Scalar} {rest : Cursor}
    (hTake : cursor.take 3 = (taken, rest)) :
    cursor.point =
      (if taken.length = 3 then
        .error (.invalidPoint (Text.bracketed (taken.map Scalar.toText ++ ["..."])))
      else pointOf taken, rest) := by
  rw [point, hTake]
  dsimp only
  split <;> rfl

/-- A cursor over a list reads the whole list if that has less than three elements. -/
theorem IsOver.point_eq {cursor : Cursor} {items : List Scalar} (hOver : cursor.IsOver items) :
    cursor.point.1 =
      if items.length < 3 then pointOf items else .error (.invalidPoint (firstThree items)) := by
  rw [point_of_take hOver.take_three, List.length_take]
  by_cases hShort : items.length < 3
  · rw [if_pos hShort, if_neg (by omega), List.take_of_length_le (by omega)]
  · rw [if_neg hShort, if_pos (by omega)]
    rfl

end Cursor

/-! ### Primitive elements -/

/-- The elements of a primitive type that scalars have as well. Flags and characters are read
otherwise as scalars: those have no floating-point value. -/
def Primitives.scalars? : Primitives → Option (List Scalar)
  | flags _ => none
  | chars _ => none
  | bytes values => some (values.map .byte)
  | shorts values => some (values.map .short)
  | ints values => some (values.map .int)
  | longs values => some (values.map .long)
  | floats values => some (values.map .float)
  | doubles values => some (values.map .double)

/-- Primitive elements have the floating-point values and the texts of the scalars that they are. -/
theorem Primitives.elements_of_scalars? {values : Primitives} {items : List Scalar}
    (hItems : values.scalars? = some items) :
    items.map Scalar.element = values.toFloats.map .ok ∧
      items.map Scalar.toText = values.texts := by
  cases values with
  | flags values => cases hItems
  | chars values => cases hItems
  | bytes values | shorts values | ints values | longs values | floats values | doubles values =>
      cases hItems
      simp only [toFloats, texts, List.map_map]
      exact ⟨rfl, rfl⟩

/-- Primitive elements are read as the scalars that they are. -/
theorem Primitives.point_eq_pointOf {values : Primitives} {items : List Scalar}
    (hItems : values.scalars? = some items) : values.point = pointOf items := by
  obtain ⟨hElements, hTexts⟩ := elements_of_scalars? hItems
  have hLength : items.length = values.toFloats.length := by
    rw [← List.length_map Scalar.element, hElements, List.length_map]
  unfold point
  split
  · rename_i x y hFloats
    rw [hFloats] at hElements hLength
    obtain ⟨first, second, rfl⟩ := List.length_eq_two.mp hLength
    obtain ⟨hFirst, hSecond⟩ := List.cons.inj hElements
    symm
    exact pointOf_eq_ok_iff.mpr ⟨first, second, rfl, Scalar.read_eq_ok_iff.mpr hFirst,
      Scalar.read_eq_ok_iff.mpr (List.cons.inj hSecond).1⟩
  · rename_i hOther
    have hNotTwo : items.length ≠ 2 := by
      intro hTwo
      obtain ⟨x, y, hFloats⟩ := List.length_eq_two.mp (hLength.symm.trans hTwo)
      exact hOther x y hFloats
    rw [pointOf_of_length hNotTwo, toText, ← hTexts]
    rfl

/-! ### Sources -/

/-- The sources that hand over a list of scalars as a whole, with any keys in front of them. -/
inductive CarriesScalars (items : List Scalar) : Source ι → Prop where
  | collection : CarriesScalars items (.collection items)
  | mapping {pairs : List (Scalar × Scalar)} (hValues : pairs.map Prod.snd = items) :
      CarriesScalars items (.mapping pairs)
  | vector : CarriesScalars items (.dynamic (.scalars items))

/-- Whatever carries the scalars, an update reads the point of them. -/
theorem CarriesScalars.update_eq {items : List Scalar} {source : Source ι}
    (hCarries : CarriesScalars items source) :
    source.update = Update.point <$> pointOf items := by
  cases hCarries with
  | collection => rfl
  | mapping hValues => rw [Source.update, hValues]
  | vector => rfl

namespace Store

variable [Ord ι] [Std.TransOrd ι] [Std.LawfulEqOrd ι] [DecidableEq ι]

/-- A container gets a point from data under the point rule, and nothing if they are none. -/
theorem absorbs_point_iff {source : Source ι} {result : Except Error (Point Float)}
    (hUpdate : source.update = Update.point <$> result) {store : ShapeStore ι} {name : ι}
    {shape : Shape} :
    store.Absorbs name source shape ↔ ∃ point, result = .ok point ∧ .ofPoint point = shape := by
  have hReplace : source.update = Update.replace <$> (MultiPolygon.ofPoint <$> result) := by
    rw [hUpdate]
    cases result <;> rfl
  exact (absorbs_replace_iff hReplace).trans map_eq_ok_iff

omit [DecidableEq ι] in
/-- Sources whose data are read as the same point, or with the same fault, are absorbed alike. -/
theorem runIn_absorb_point {first second : Source ι} {left right : Except Error (Point Float)}
    (hFirst : first.update = Update.point <$> left)
    (hSecond : second.update = Update.point <$> right) (hSame : left = right)
    (store : ShapeStore ι) (name : ι) :
    (absorb name first).runIn store = (absorb name second).runIn store := by
  rw [runIn_absorb, runIn_absorb, hFirst, hSecond, hSame]

omit [DecidableEq ι] in
/-- Data that are no point under the point rule change nothing. -/
theorem rejects_point {source : Source ι} {result : Except Error (Point Float)} {error : Error}
    (hUpdate : source.update = Update.point <$> result) (hFault : result = .error error)
    (store : ShapeStore ι) (name : ι) : store.Rejects name source error := by
  apply rejects_of_error
  rw [hUpdate, hFault]
  rfl

omit [DecidableEq ι] in
/-- Three elements or more are rejected from a cursor as from a collection, but less is shown. -/
theorem rejects_of_three_le {cursor : Cursor} {items : List Scalar} (hOver : cursor.IsOver items)
    (hLong : 3 ≤ items.length) (store : ShapeStore ι) (name : ι) :
    store.Rejects name (.sequence cursor) (.invalidPoint (Cursor.firstThree items)) ∧
      store.Rejects name (.collection items) (.invalidPoint (coordinatesText items)) :=
  ⟨rejects_point rfl (hOver.point_eq.trans (if_neg (Nat.not_lt.mpr hLong))) store name,
    rejects_point rfl (pointOf_of_length (by omega)) store name⟩

/-- The point rule does not depend on what carries the data. Collections, the values of mappings
and vectors are absorbed alike, as a point exactly if they are two scalars that denote numbers. A
cursor is absorbed as the list that it is over, but what is shown of three elements or more ends
behind the third one; no more than three are taken from it, so that it may be endless. Primitive
elements are absorbed as the scalars that they are. -/
theorem absorb_scalars_alike (store : ShapeStore ι) (name : ι) :
    (∀ items source, CarriesScalars items source →
      (absorb name source).runIn store = (absorb name (.collection items)).runIn store) ∧
    (∀ items (payload : Shape), store.Absorbs name (.collection items) payload ↔
      ∃ first second x y, items = [first, second] ∧ first.element = .ok x ∧
        second.element = .ok y ∧ payload = .ofPoint ⟨x, y⟩ ∧ payload.toNested = [[[[x, y]]]]) ∧
    (∀ items cursor, cursor.IsOver items →
      cursor.point.2.position = cursor.position + min 3 items.length ∧
      (items.length < 3 → (absorb name (.sequence cursor)).runIn store =
        (absorb name (.collection items)).runIn store) ∧
      (3 ≤ items.length →
        store.Rejects name (.sequence cursor) (.invalidPoint (Cursor.firstThree items)) ∧
        store.Rejects name (.collection items) (.invalidPoint (coordinatesText items)))) ∧
    (∀ stream cursor, cursor.Streams stream →
      cursor.point.2.position = cursor.position + 3 ∧
      store.Rejects name (.sequence cursor)
        (.invalidPoint (Cursor.firstThree [stream 0, stream 1, stream 2]))) ∧
    (∀ values items, values.scalars? = some items →
      (absorb name (.primitives values)).runIn store =
        (absorb name (.collection items)).runIn store) ∧
    ∀ values : List Float, (absorb name (.dynamic (.doubles values))).runIn store =
      (absorb name (.collection (values.map .double))).runIn store := by
  refine ⟨?_, ?_, ?_, ?_, ?_, ?_⟩
  · intro items source hCarries
    exact runIn_absorb_point hCarries.update_eq rfl rfl store name
  · intro items payload
    have hUpdate : (Source.collection items : Source ι).update = Update.point <$> pointOf items :=
      rfl
    rw [absorbs_point_iff hUpdate]
    constructor
    · rintro ⟨point, hPoint, rfl⟩
      obtain ⟨first, second, hItems, hFirst, hSecond⟩ := pointOf_eq_ok_iff.mp hPoint
      exact ⟨first, second, point.x, point.y, hItems, Scalar.read_eq_ok_iff.mp hFirst,
        Scalar.read_eq_ok_iff.mp hSecond, rfl, rfl⟩
    · rintro ⟨first, second, x, y, hItems, hFirst, hSecond, rfl, -⟩
      have hPoint : pointOf items = .ok ⟨x, y⟩ := pointOf_eq_ok_iff.mpr ⟨first, second, hItems,
        Scalar.read_eq_ok_iff.mpr hFirst, Scalar.read_eq_ok_iff.mpr hSecond⟩
      exact ⟨⟨x, y⟩, hPoint, rfl⟩
  · intro items cursor hOver
    refine ⟨?_, ?_, fun hLong => rejects_of_three_le hOver hLong store name⟩
    · rw [Cursor.point_of_take hOver.take_three]
    · intro hShort
      have hPoint : cursor.point.1 = pointOf items := hOver.point_eq.trans (if_pos hShort)
      exact runIn_absorb_point rfl rfl hPoint store name
  · intro stream cursor hStreams
    have hPoint := Cursor.point_of_take hStreams.take_three
    exact ⟨by rw [hPoint], rejects_point rfl (congrArg Prod.fst hPoint) store name⟩
  · intro values items hItems
    exact runIn_absorb_point rfl rfl (Primitives.point_eq_pointOf hItems) store name
  · intro values
    exact runIn_absorb_point rfl rfl (Primitives.point_eq_pointOf rfl) store name

/-- A pair of a number and of the text of one from everything that carries it, and all integers
from zero on. -/
theorem absorb_scalars_alike_pair :
    let store : ShapeStore Nat := empty.create 0 (.ofPoint ⟨7, 8⟩)
    let items : List Scalar := [.int 5, .text " 6.5 "]
    let pairs : List (Scalar × Scalar) := [(.text "y", .int 5), (.flag true, .text " 6.5 ")]
    store.Absorbs 0 (.collection items) (.ofPoint ⟨5, 6.5⟩) ∧
    (absorb 0 (.mapping pairs)).runIn store = (absorb 0 (.collection items)).runIn store ∧
    (absorb 0 (.sequence (.ofList items))).runIn store =
      (absorb 0 (.collection items)).runIn store ∧
    (Cursor.ofList items).point.2.position = 2 ∧
    (Cursor.ofIntegers 0).point.2.position = 3 ∧
    store.Rejects 0 (.sequence (.ofIntegers 0)) (.invalidPoint "[0, 1, 2, ...]") ∧
    store.Rejects 0 (.sequence (.ofList (items ++ items)))
      (.invalidPoint "[5,  6.5 , 5, ...]") ∧
    (absorb 0 (.primitives (.longs [3, 4]))).runIn store =
      (absorb 0 (.collection [.long 3, .long 4])).runIn store := by
  intro store items pairs
  obtain ⟨hCarries, hAbsorbs, hCursor, hStream, hPrimitives, -⟩ := absorb_scalars_alike store 0
  have hList := hCursor items (.ofList items) (Cursor.isOver_ofList items)
  have hEndless := hStream _ (.ofIntegers 0) (Cursor.streams_ofIntegers 0)
  have hLong := hCursor (items ++ items) (.ofList (items ++ items)) (Cursor.isOver_ofList _)
  refine ⟨?_, hCarries items _ (.mapping rfl), hList.2.1 (by decide), hList.1, hEndless.1,
    hEndless.2, (hLong.2.2 (by decide)).1, hPrimitives _ _ rfl⟩
  exact (hAbsorbs items _).mpr
    ⟨.int 5, .text " 6.5 ", 5, 6.5, rfl, by decide, by decide, rfl, rfl⟩

end Store

end DbClient
