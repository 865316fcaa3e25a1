import DbClient.Json.Basic
import DbClient.Setting.Assignment
import DbClient.Setting.Builtin
import DbClient.Setting.Fallback

/-! The catalog of known settings: the built-in ones and those that client implementations
contribute. A built-in key always means the built-in setting. -/

namespace DbClient.Setting

/-- The contributed settings by key. -/
structure Catalog where
  contributed : SortedMap String Descriptor
  deriving DecidableEq

namespace Catalog

def builtin : Catalog := ⟨.empty⟩

/-- The catalog with one more contributed setting, over an earlier one with the same key. -/
def register (catalog : Catalog) (setting : Descriptor) : Catalog :=
  ⟨catalog.contributed.insert setting.key setting⟩

/-- The catalog with a list of contributed settings; later ones win. -/
def registerAll (catalog : Catalog) (settings : List Descriptor) : Catalog :=
  settings.foldl register catalog

/-- The built-in setting with this key: one of every client, or one of the fallbacks that
properties may set. -/
def builtin? (key : String) : Option Descriptor :=
  (Builtin.find? key).or (Fallback.findProperty? key)

def contributed? (catalog : Catalog) (key : String) : Option Descriptor :=
  catalog.contributed.get? key

def resolve? (catalog : Catalog) (key : String) : Option Descriptor :=
  (builtin? key).or (catalog.contributed? key)

def contributions (catalog : Catalog) : List Descriptor :=
  catalog.contributed.entries.map Prod.snd

/-- Sets what one property means; a key that means no setting is ignored. -/
def assignOne (catalog : Catalog) (assignment : Assignment) (property : String × String) :
    Except Error Assignment :=
  match catalog.resolve? property.1 with
  | none => .ok assignment
  | some setting => assignment.setText setting property.2

/-- Reads properties in order, up to the first one whose text its setting refuses. -/
def assign (catalog : Catalog) (properties : List (String × String)) :
    Except Error Assignment :=
  properties.foldlM catalog.assignOne .empty

/-- The property that a member of an object stands for: strings as they are, `null` as nothing,
and other values by their text. -/
def propertyOf? : String × Json → Option (String × String)
  | (_, .null) => none
  | (key, .string text) => some (key, text)
  | (key, value) => some (key, value.toText)

/-- Reads the members of an object as properties. -/
def assignMembers (catalog : Catalog) (members : List (String × Json)) :
    Except Error Assignment :=
  catalog.assign (members.filterMap propertyOf?)

end Catalog

end DbClient.Setting
