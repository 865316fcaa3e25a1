import DbClient.Json.Basic
import DbClient.Enumerated

/-! Typed reading of documents. A decoder accepts the documents that denote an element of its
type and says of all others what was found and what was expected. Elements of arrays are read
in order, and the first one that does not fit decides the fault. -/

namespace DbClient

/-- Why a document does not denote an element of a type. -/
inductive DecodeFault where
  /-- A value of another kind was found. -/
  | kind (found : Json) (expected : String)
  /-- A whole number was found that does not fit the expected type. -/
  | range (found : Int) (expected : String)
  /-- An array has fewer elements than the type needs. -/
  | short (length : Nat) (expected : String)
  /-- An array has more elements than the type takes. -/
  | long (length : Nat)
  /-- The type has a reason of its own. -/
  | other (reason : String)

namespace DecodeFault

/-- What was found instead of the expected kind. -/
def foundText : Json → String
  | .null => "null"
  | .bool value => "boolean `" ++ .ofList (Json.boolText value) ++ "`"
  | .integer value => "integer `" ++ .ofList (Number.intText value) ++ "`"
  | .float value => "floating point `" ++ .ofList (Json.floatText value) ++ "`"
  | .string value => "string " ++ Text.quote value
  | .array _ => "sequence"
  | .object _ => "map"

def message : DecodeFault → String
  | kind found expected => "invalid type: " ++ foundText found ++ ", expected " ++ expected
  | range found expected =>
    "invalid value: integer `" ++ .ofList (Number.intText found) ++ "`, expected " ++ expected
  | short length expected =>
    "invalid length " ++ .ofList (Number.natText length) ++ ", expected " ++ expected
  | long length =>
    "invalid length " ++ .ofList (Number.natText length) ++ ", expected fewer elements in array"
  | other reason => reason

end DecodeFault

/-- A way to read documents as elements of a type. -/
abbrev Decoder (α : Type) := Json → Except DecodeFault α

namespace Decoder

/-- Reads any document as itself. -/
def document : Decoder Json :=
  .ok

/-- Reads a flag. -/
def bool : Decoder Bool
  | .bool value => .ok value
  | found => .error (.kind found "a boolean")

/-- Reads a string. -/
def string : Decoder String
  | .string value => .ok value
  | found => .error (.kind found "a string")

/-- Reads a number; a whole number becomes the nearest floating-point one. -/
def float : Decoder Float
  | .integer value => .ok (Number.floatOfInt value)
  | .float value => .ok value
  | found => .error (.kind found "f64")

/-- Reads a whole number between two bounds. -/
def integer (low high : Int) (expected : String) : Decoder Int
  | .integer value =>
    if low ≤ value ∧ value ≤ high then .ok value else .error (.range value expected)
  | found => .error (.kind found expected)

/-- Reads a signed number of 32 bits. -/
def int32 : Decoder Int :=
  integer Int32.minValue.toInt Int32.maxValue.toInt "i32"

/-- Reads an unsigned number of 8 bits. -/
def nat8 : Decoder Int :=
  integer 0 255 "u8"

/-- Reads `null` as nothing and any other document as an element. -/
def optional {α : Type} (item : Decoder α) : Decoder (Option α)
  | .null => .ok none
  | found => (item found).map some

/-- Reads an array of elements. -/
def list {α : Type} (item : Decoder α) : Decoder (List α)
  | .array items => items.mapM item
  | found => .error (.kind found "a sequence")

/-- Reads an array of exactly two elements. Missing elements are noticed where they are needed
and surplus ones at the end. -/
def pair {α : Type} (item : Decoder α) : Decoder (α × α)
  | .array [] => .error (.short 0 "an array of length 2")
  | .array [first] => do
    let _ ← item first
    .error (.short 1 "an array of length 2")
  | .array (first :: second :: rest) => do
    let x ← item first
    let y ← item second
    if rest.isEmpty then .ok (x, y) else .error (.long (rest.length + 2))
  | found => .error (.kind found "an array of length 2")

end Decoder

/-- Reads a variant of an enumerated type: its name as a string, or an object with the name as
the only key and `null` as the value. -/
def Enumerated.ofJson? {α : Type} [Enumerated α] : Json → Option α
  | .string name => ofName? name
  | .object [(name, .null)] => ofName? name
  | _ => none

end DbClient
