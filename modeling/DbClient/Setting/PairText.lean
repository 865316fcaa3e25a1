import DbClient.SortedMap
import DbClient.Text.Blank

/-! Key and value pairs written as `key=value` and separated by commas. A backslash takes the
special meaning from the character after it. Blanks around keys and values are ignored, and so
is an entry without an equals sign or with a blank key. -/

namespace DbClient.Setting

abbrev PairMap := SortedMap String String

namespace PairText

/-- An entry as far as it is read: its key and, behind an equals sign, its value. -/
structure Entry where
  key : List Char
  value? : Option (List Char)
  deriving DecidableEq, Repr

namespace Entry

def start : Entry := ⟨[], none⟩

/-- The entry with one more character, in its value if that has begun. -/
def push (entry : Entry) (c : Char) : Entry :=
  match entry.value? with
  | none => { entry with key := entry.key ++ [c] }
  | some value => { entry with value? := some (value ++ [c]) }

/-- What an equals sign means: the first one begins the value, any other belongs to it. -/
def equals (entry : Entry) : Entry :=
  match entry.value? with
  | none => { entry with value? := some [] }
  | some _ => entry.push '='

/-- Records a complete entry, over an earlier one with the same key. -/
def record (entry : Entry) (pairs : PairMap) : PairMap :=
  match entry.value? with
  | none => pairs
  | some value =>
    let key := Text.trim entry.key
    if key.isEmpty then pairs else pairs.insert (.ofList key) (.ofList (Text.trim value))

end Entry

/-- Reads the rest of a text behind an incomplete entry. -/
def scan (entry : Entry) (pairs : PairMap) : List Char → PairMap
  | [] => entry.record pairs
  | ['\\'] => entry.record pairs
  | '\\' :: c :: rest => scan (entry.push c) pairs rest
  | '=' :: rest => scan entry.equals pairs rest
  | ',' :: rest => scan .start (entry.record pairs) rest
  | c :: rest => scan (entry.push c) pairs rest

/-- The pairs that a text holds; of entries with the same key the last one counts. -/
def parse (text : String) : PairMap :=
  scan .start .empty text.toList

end PairText

end DbClient.Setting
