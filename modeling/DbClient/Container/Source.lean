import DbClient.Container.Point
import DbClient.Container.View

/-! Sources that a container of a multi-polygon is updated from. What an update does depends on
the source alone: it replaces the payload, or it shares the payload of another container. -/

namespace DbClient

/-- Data that are known by their dynamic type only. Containers are known by names of type
`ι`. -/
inductive DynamicData (ι : Type) where
  | container (name : ι)
  | shape (shape : Shape)
  | nested (polygons : NestedPolygons Float)
  | point (point : Point Float)
  | doubles (values : List Float)
  | scalars (items : List Scalar)
  | documents (items : List Json)
  | scalar (value : Scalar)
  | text (value : String)
  /-- Data of a type that no container knows. -/
  | unknown

/-- What a container is updated from. -/
inductive Source (ι : Type) where
  | null
  | scalar (value : Scalar)
  | primitives (values : Primitives)
  | collection (items : List Scalar)
  | sequence (cursor : Cursor)
  /-- Keys and values, of which only the values are used. -/
  | mapping (pairs : List (Scalar × Scalar))
  /-- A container of the same kind. -/
  | container (name : ι)
  /-- A container of another kind. -/
  | foreign (view : ContainerView)
  | array (items : List Json)
  | nested (polygons : NestedPolygons Float)
  | dynamic (data : DynamicData ι)

/-- What an update does. -/
inductive Update (ι : Type) where
  /-- The container gets a payload of its own. -/
  | replace (payload : Shape)
  /-- The container shares the payload of another one, unless that is empty. -/
  | share (name : ι)

variable {ι : Type}

namespace Update

/-- The update that replaces the payload by a single point. -/
def point (point : Point Float) : Update ι :=
  replace (.ofPoint point)

end Update

/-- The error for data that are never a multi-polygon. -/
def unsupported (typeName : String) : Error :=
  .unsupportedConversion typeName (Enumerated.name ContainerKind.multiPolygon)

namespace DynamicData

/-- What an update from dynamic data does. -/
def update : DynamicData ι → Except Error (Update ι)
  | container name => .ok (.share name)
  | shape value => .ok (.replace value)
  | nested polygons => .replace <$> MultiPolygon.ofCoordinates polygons
  | point value => .ok (.point value)
  | doubles values => .point <$> (Primitives.doubles values).point
  | scalars items => .point <$> pointOf items
  | documents items => .replace <$> MultiPolygon.ofJson items
  | scalar value => .error (unsupported value.typeName)
  | text _ => .error (unsupported "String")
  | unknown => .error (unsupported "Object")

end DynamicData

namespace Source

/-- What an update from a source does. -/
def update : Source ι → Except Error (Update ι)
  | null => .ok (.replace .empty)
  | scalar value => .error (unsupported value.typeName)
  | primitives values => .point <$> values.point
  | collection items => .point <$> pointOf items
  | sequence cursor => .point <$> cursor.point.1
  | mapping pairs => .point <$> pointOf (pairs.map Prod.snd)
  | container name => .ok (.share name)
  | foreign view =>
    if view.isEmpty then .ok (.replace .empty) else .replace <$> MultiPolygon.ofJson view.items
  | array items => .replace <$> MultiPolygon.ofJson items
  | nested polygons => .replace <$> MultiPolygon.ofCoordinates polygons
  | dynamic data => data.update

/-- The text of a source for diagnostics. -/
def describe : Source ι → String
  | null => "Null"
  | scalar value => "Scalar(" ++ value.describe ++ ")"
  | primitives values => "Primitives(" ++ values.describe ++ ")"
  | collection items => "Collection(" ++ Text.bracketed (items.map Scalar.describe) ++ ")"
  | sequence _ => "Sequence(..)"
  | mapping pairs =>
    let pairText (pair : Scalar × Scalar) :=
      "(" ++ pair.1.describe ++ ", " ++ pair.2.describe ++ ")"
    "Mapping(" ++ Text.bracketed (pairs.map pairText) ++ ")"
  | container _ => "Value(..)"
  | foreign _ => "Value(..)"
  | array items => "Array(" ++ Text.bracketed (items.map Json.describe) ++ ")"
  | nested polygons =>
    let ringText (ring : List (List Float)) := Text.bracketed (ring.map Number.floatsText)
    let polygonText (rings : List (List (List Float))) := Text.bracketed (rings.map ringText)
    "Nested(" ++ Text.bracketed (polygons.map polygonText) ++ ")"
  | dynamic _ => "Object(..)"

end Source

end DbClient
