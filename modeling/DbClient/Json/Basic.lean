import DbClient.Number.FloatText
import DbClient.SortedMap
import DbClient.Text.Quoted

/-! Documents: nested values with two forms of text, the compact interchange form and a form
for diagnostics that also shows the kind of every value. -/

namespace DbClient

/-- A document. The members of an object are in increasing order of their keys. -/
inductive Json where
  | null
  | bool (value : Bool)
  | integer (value : Int)
  | float (value : Float)
  | string (value : String)
  | array (items : List Json)
  | object (members : List (String × Json))

namespace Json

/-- The object with these members; of several with the same key the last one counts. -/
def ofMembers (members : List (String × Json)) : Json :=
  object (SortedMap.ofList members).entries

/-- Whether a value is an array. -/
def isArray : Json → Bool
  | array _ => true
  | _ => false

/-- The elements of an array. -/
def items? : Json → Option (List Json)
  | array items => some items
  | _ => none

/-- Documents write magnitudes from a hundred thousandth up to ten to the sixteenth without an
exponent, and exponents with their sign. -/
def numberLayout : Number.FloatLayout := ⟨-4, 16, true, .even⟩

/-- The text of a floating-point number; documents have no other number than finite ones. -/
def floatText (x : Float) : List Char :=
  if x.isFinite then Number.patternText numberLayout .binary64 x.toBits.toNat
  else ['n', 'u', 'l', 'l']

/-- How a character is written between the quotes of a string. -/
def escapeChar (c : Char) : List Char :=
  if c = '"' then ['\\', '"']
  else if c = '\\' then ['\\', '\\']
  else if c = '\x08' then ['\\', 'b']
  else if c = '\x0c' then ['\\', 'f']
  else if c = '\n' then ['\\', 'n']
  else if c = '\r' then ['\\', 'r']
  else if c = '\t' then ['\\', 't']
  else if c.toNat < 0x20 then
    let digits := Text.hexDigits c.toNat
    ['\\', 'u'] ++ List.replicate (4 - digits.length) '0' ++ digits
  else [c]

/-- A string between quotes. -/
def stringText (s : String) : List Char :=
  '"' :: s.toList.flatMap escapeChar ++ ['"']

/-- The text of a flag. -/
def boolText (b : Bool) : List Char :=
  if b then ['t', 'r', 'u', 'e'] else ['f', 'a', 'l', 's', 'e']

mutual

/-- The compact text of a document. -/
def render : Json → List Char
  | null => ['n', 'u', 'l', 'l']
  | bool value => boolText value
  | integer value => Number.intText value
  | float value => floatText value
  | string value => stringText value
  | array items => '[' :: renderItems items ++ [']']
  | object members => '\x7b' :: renderMembers members ++ ['\x7d']

/-- The texts of elements, separated by commas. -/
def renderItems : List Json → List Char
  | [] => []
  | [item] => render item
  | item :: items => render item ++ ',' :: renderItems items

/-- The texts of members, separated by commas. -/
def renderMembers : List (String × Json) → List Char
  | [] => []
  | [(key, value)] => stringText key ++ ':' :: render value
  | (key, value) :: members => stringText key ++ ':' :: render value ++ ',' :: renderMembers members

end

/-- The compact text of a document. -/
def toText (document : Json) : String :=
  .ofList document.render

mutual

/-- The text of a document for diagnostics. -/
def describe : Json → String
  | null => "Null"
  | bool value => "Bool(" ++ .ofList (boolText value) ++ ")"
  | integer value => "Number(" ++ .ofList (Number.intText value) ++ ")"
  | float value => "Number(" ++ .ofList (floatText value) ++ ")"
  | string value => "String(" ++ Text.quote value ++ ")"
  | array items => "Array [" ++ ", ".intercalate (describeItems items) ++ "]"
  | object members => "Object \x7b" ++ ", ".intercalate (describeMembers members) ++ "\x7d"

/-- The texts of elements for diagnostics. -/
def describeItems : List Json → List String
  | [] => []
  | item :: items => describe item :: describeItems items

/-- The texts of members for diagnostics. -/
def describeMembers : List (String × Json) → List String
  | [] => []
  | (key, value) :: members =>
    (Text.quote key ++ ": " ++ describe value) :: describeMembers members

end

end Json

end DbClient
