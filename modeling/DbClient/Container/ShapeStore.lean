import DbClient.Container.Source
import DbClient.Container.Store
import DbClient.Procedure

/-! Containers of multi-polygons. Null is represented by the empty multi-polygon. -/

namespace DbClient

/-- Containers of multi-polygons by name. -/
abbrev ShapeStore (ι : Type) [Ord ι] := Store ι Shape

namespace Store

variable {ι : Type} [Ord ι] [Std.TransOrd ι] [Std.LawfulEqOrd ι]

/-- Makes a container of a payload, or of what another container is to hold: that one is updated
first and then shares its payload. -/
def createFrom (store : ShapeStore ι) (name : ι) (reference? : Option ι) (payload : Shape) :
    ShapeStore ι :=
  match reference? with
  | none => store.create name payload
  | some reference => (store.replace reference payload).share name reference

/-- Empties a container. -/
def reset (store : ShapeStore ι) (name : ι) : ShapeStore ι :=
  store.replace name .empty

/-- Sets the point with these indices in a container, if there is one. If an index is at fault, all
containers stay as they are. -/
def setPoint (store : ShapeStore ι) (name : ι) (polygon ring point : UInt64)
    (value : Point Float) : Except MultiPolygon.IndexFault (ShapeStore ι) :=
  match store.payload? name with
  | none => return store
  | some payload => store.replace name <$> payload.setPoint polygon ring point value

/-- Does what an update says. A container that shares the payload of an empty one gets an empty
payload of its own. -/
def apply (store : ShapeStore ι) (name : ι) : Update ι → ShapeStore ι
  | .replace payload => store.replace name payload
  | .share source =>
    match store.payload? source with
    | none => store
    | some payload => if payload.isEmpty then store.reset name else store.share name source

/-- Updates a container from a source. -/
def absorb (name : ι) (source : Source ι) : Procedure (ShapeStore ι) Unit := do
  let update ← source.update
  set ((← get).apply name update)

end Store

end DbClient
