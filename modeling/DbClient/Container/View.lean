import DbClient.Container.Kind
import DbClient.Error
import DbClient.Geo.Float
import DbClient.Json.Decoder

/-! What a typed container of any kind shows of its payload, and the projections of that to
lists and to maps whose elements have a given type. Projections are read from a view, so they
change nothing. -/

namespace DbClient

/-- What a container shows. -/
structure ContainerView where
  kind : ContainerKind
  /-- The elements of the payload. -/
  items : List Json
  /-- Whether the payload is null or empty. -/
  isEmpty : Bool
  /-- Whether null is another state than empty. -/
  isNullable : Bool

/-- What a container of a multi-polygon shows. -/
def MultiPolygon.view (shape : Shape) : ContainerView :=
  ⟨.multiPolygon, shape.toJson, shape.isEmpty, false⟩

namespace ContainerView

/-- An element does not fit the wanted type. -/
def elementError (view : ContainerView) (fault : DecodeFault) : Error :=
  .invalidInput ("Cannot project " ++ Enumerated.name view.kind ++ " element: " ++ fault.message)

/-- A position does not fit the wanted type of keys. -/
def keyError (position : Nat) (fault : DecodeFault) : Error :=
  .invalidInput ("Cannot project map key " ++ .ofList (Number.natText position) ++ ": " ++
    fault.message)

/-- The elements at a type. -/
def toList {α : Type} (item : Decoder α) (view : ContainerView) : Except Error (List α) :=
  view.items.mapM fun document => (item document).mapError view.elementError

/-- Adds elements to a map under their positions, of which `position` is the first one. The key
is read before the element. -/
def insertFrom {κ α : Type} [Ord κ] [Std.TransOrd κ] (key : Decoder κ) (item : Decoder α)
    (view : ContainerView) (position : Nat) (built : SortedMap κ α) :
    List Json → Except Error (SortedMap κ α)
  | [] => .ok built
  | document :: documents => do
    let k ← (key (.integer position)).mapError (keyError position)
    let element ← (item document).mapError view.elementError
    insertFrom key item view (position + 1) (built.insert k element) documents

/-- The elements at a type, under their positions counted from one. -/
def toMap {κ α : Type} [Ord κ] [Std.TransOrd κ] (key : Decoder κ) (item : Decoder α)
    (view : ContainerView) : Except Error (SortedMap κ α) :=
  insertFrom key item view 1 .empty view.items

end ContainerView

end DbClient
