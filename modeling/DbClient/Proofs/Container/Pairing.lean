import DbClient.Proofs.Container.PointRule
import DbClient.Proofs.Scalar.Denoting

/-! Pairs of scalars as points. Main statement: `Store.absorb_pair_exactly`, by which two scalars
are absorbed as a point exactly if both denote numbers, and the first one that denotes none is
reported otherwise. -/

namespace DbClient

variable {ι : Type}

namespace Scalar

theorem element_eq_ok_iff {scalar : Scalar} {x : Float} :
    scalar.element = .ok x ↔ scalar.HasNumber x := by
  rw [← or_readFloat?_eq_some_iff, element]
  cases scalar.float?.or (Number.readFloat? (Text.trim scalar.chars)) <;> simp

/-- A scalar is read as the number that it denotes. -/
theorem read_eq_ok_iff_hasNumber {scalar : Scalar} {x : Float} :
    Coordinate.read scalar = .ok x ↔ scalar.HasNumber x :=
  read_eq_ok_iff.trans element_eq_ok_iff

/-- A scalar that denotes no number is reported by its whole text. -/
theorem read_eq_error_iff {scalar : Scalar} {error : Error} :
    Coordinate.read scalar = .error error ↔
      (∀ x, ¬ scalar.HasNumber x) ∧ error = .numberFormat scalar.toText := by
  simp only [SourceForm.read_scalar, ← or_readFloat?_eq_some_iff, element]
  cases scalar.float?.or (Number.readFloat? (Text.trim scalar.chars)) <;>
    simp [Except.mapError, eq_comm]

end Scalar

/-- The sources that hand over a list of scalars as a whole or one after the other. -/
inductive HandsOver (items : List Scalar) : Source ι → Prop where
  | whole {source : Source ι} (hCarries : CarriesScalars items source) : HandsOver items source
  | inTurn {cursor : Cursor} (hOver : cursor.IsOver items) : HandsOver items (.sequence cursor)

/-- What hands over two scalars updates a container to their point. -/
theorem HandsOver.update_eq {first second : Scalar} {source : Source ι}
    (hHands : HandsOver [first, second] source) :
    source.update = Update.point <$> pointOf [first, second] := by
  cases hHands with
  | whole hCarries => exact hCarries.update_eq
  | inTurn hOver =>
      have hShort : [first, second].length < 3 := Nat.lt_succ_self 2
      exact congrArg (Update.point <$> ·) (hOver.point_eq.trans (if_pos hShort))

/-- Of two scalars the first one that denotes no number is the fault. -/
theorem pointOf_eq_error_iff {first second : Scalar} {error : Error} :
    pointOf [first, second] = .error error ↔ ∃ culprit : Scalar,
      (culprit = first ∨ culprit = second ∧ ∃ x, first.HasNumber x) ∧
      (∀ x, ¬ culprit.HasNumber x) ∧ error = .numberFormat culprit.toText := by
  rw [pointOf, bind_eq_error_iff]
  constructor
  · rintro (hFirst | ⟨x, hFirst, hRest⟩)
    · obtain ⟨hNone, rfl⟩ := Scalar.read_eq_error_iff.mp hFirst
      exact ⟨first, .inl rfl, hNone, rfl⟩
    · rcases bind_eq_error_iff.mp hRest with hSecond | ⟨y, -, hPoint⟩
      · obtain ⟨hNone, rfl⟩ := Scalar.read_eq_error_iff.mp hSecond
        exact ⟨second, .inr ⟨rfl, x, Scalar.read_eq_ok_iff_hasNumber.mp hFirst⟩, hNone, rfl⟩
      · cases hPoint
  · rintro ⟨culprit, rfl | ⟨rfl, x, hFirst⟩, hNone, rfl⟩
    · exact .inl (Scalar.read_eq_error_iff.mpr ⟨hNone, rfl⟩)
    · exact .inr ⟨x, Scalar.read_eq_ok_iff_hasNumber.mpr hFirst,
        bind_eq_error_iff.mpr (.inl (Scalar.read_eq_error_iff.mpr ⟨hNone, rfl⟩))⟩

namespace Store

variable [Ord ι] [Std.TransOrd ι] [Std.LawfulEqOrd ι] [DecidableEq ι]

/-- Two scalars are absorbed as a point exactly if both denote numbers, and as the point of these
numbers. Otherwise nothing is changed, and the first one that denotes no number is reported by its
text. Numeric scalars always denote a number; flags, identifiers, addresses, dates and times never
do, so that they are reported whatever their text is. -/
theorem absorb_pair_exactly (store : ShapeStore ι) (name : ι) {first second : Scalar}
    {source : Source ι} (hHands : HandsOver [first, second] source) :
    (∀ payload, store.Absorbs name source payload ↔ ∃ x y, first.HasNumber x ∧
      second.HasNumber y ∧ payload = .ofPoint ⟨x, y⟩) ∧
    (∀ error, store.Rejects name source error ↔ ∃ culprit,
      (culprit = first ∨ culprit = second ∧ ∃ x, first.HasNumber x) ∧
      (∀ x, ¬ culprit.HasNumber x) ∧ error = .numberFormat culprit.toText) ∧
    (∀ scalar : Scalar, scalar.usage = .number → ∃ x, scalar.HasNumber x) ∧
    (first.usage = .never → store.Rejects name source (.numberFormat first.toText)) ∧
    (second.usage = .never → (∃ x, first.HasNumber x) →
      store.Rejects name source (.numberFormat second.toText)) := by
  have hUpdate : source.update = Update.point <$> pointOf [first, second] := hHands.update_eq
  have hRejects (error : Error) : store.Rejects name source error ↔ ∃ culprit : Scalar,
      (culprit = first ∨ culprit = second ∧ ∃ x, first.HasNumber x) ∧
      (∀ x, ¬ culprit.HasNumber x) ∧ error = .numberFormat culprit.toText := by
    rw [rejects_iff, hUpdate, ← faultOf_eq_some_iff, faultOf_map, faultOf_eq_some_iff]
    exact pointOf_eq_error_iff
  refine ⟨?_, hRejects, fun scalar => Scalar.exists_hasNumber, ?_, ?_⟩
  · intro payload
    rw [absorbs_point_iff hUpdate]
    constructor
    · rintro ⟨point, hPoint, rfl⟩
      obtain ⟨_, _, hItems, hFirst, hSecond⟩ := pointOf_eq_ok_iff.mp hPoint
      cases hItems
      rw [Scalar.read_eq_ok_iff_hasNumber] at hFirst hSecond
      exact ⟨point.x, point.y, hFirst, hSecond, rfl⟩
    · rintro ⟨x, y, hFirst, hSecond, rfl⟩
      rw [← Scalar.read_eq_ok_iff_hasNumber] at hFirst hSecond
      exact ⟨⟨x, y⟩, pointOf_eq_ok_iff.mpr ⟨first, second, rfl, hFirst, hSecond⟩, rfl⟩
  · intro hUsage
    exact (hRejects _).mpr ⟨first, .inl rfl, Scalar.not_hasNumber hUsage, rfl⟩
  · intro hUsage hFirst
    exact (hRejects _).mpr ⟨second, .inr ⟨rfl, hFirst⟩, Scalar.not_hasNumber hUsage, rfl⟩

/-- An identifier whose first group reads like a number with an exponent, a date, and the texts of
two numbers. -/
theorem absorb_pair_identifier :
    let store : ShapeStore Nat := empty.create 0 (.ofPoint ⟨7, 8⟩)
    let identifier : Scalar := .uuid ⟨#v[0, 0, 0, 0x1e, 0, 5, 0, 0, 0, 0, 0, 0, 0, 0, 0, 0]⟩
    let day : Scalar := .date ⟨-1, 2, 3, by decide, by decide, by decide⟩
    store.Rejects 0 (.mapping [(.text "x", identifier), (.text "y", day)])
      (.numberFormat "0000001e-0005-0000-0000-000000000000") ∧
    store.Rejects 0 (.sequence (.ofList [.int 5, day])) (.numberFormat "-0001-02-03") ∧
    store.Absorbs 0 (.collection [.text " +1e3 ", .char '7']) (.ofPoint ⟨1000, 7⟩) := by
  intro store identifier day
  have hMapping : HandsOver (ι := Nat) [identifier, day]
      (.mapping [(.text "x", identifier), (.text "y", day)]) := .whole (.mapping rfl)
  have hSequence : HandsOver (ι := Nat) [.int 5, day] (.sequence (.ofList [.int 5, day])) :=
    .inTurn (Cursor.isOver_ofList _)
  have hCollection : HandsOver (ι := Nat) [.text " +1e3 ", .char '7']
      (.collection [.text " +1e3 ", .char '7']) := .whole .collection
  refine ⟨(absorb_pair_exactly store 0 hMapping).2.2.2.1 rfl,
    (absorb_pair_exactly store 0 hSequence).2.2.2.2 rfl (Scalar.exists_hasNumber rfl),
    ((absorb_pair_exactly store 0 hCollection).1 _).mpr ⟨1000, 7, ?_, ?_, rfl⟩⟩
  · exact Scalar.element_eq_ok_iff.mp (by decide)
  · exact Scalar.element_eq_ok_iff.mp (by decide)

end Store

end DbClient
