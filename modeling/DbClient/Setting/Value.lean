import DbClient.Error
import DbClient.Number.Integer
import DbClient.Text.AsciiCase
import DbClient.Text.Blank
import DbClient.Text.Quoted

/-! Values of settings and their text. A flag is true exactly when its text is `true`, in any
case, or `1`; a string keeps its text as it stands; all other types ignore blanks around it. -/

namespace DbClient

open Text

/-- The variant with this name, whatever the case of its letters and the blanks around it. -/
def Enumerated.parse {α : Type} [Enumerated α] (text : List Char) : Except Error α :=
  let wanted := trim text
  match (ofCaselessName? wanted : Option α) with
  | some variant => .ok variant
  | none => .error <| .invalidInput <|
      "Unknown " ++ noun α ++ " '" ++ .ofList wanted ++ "', expected one of " ++
        bracketed ((all : List α).map fun variant => quote (name variant))

namespace Setting

inductive Value where
  | flag (value : Bool)
  | int (value : Int32)
  | long (value : Int64)
  | text (value : String)
  | compression (value : Compression)
  | format (value : DataFormat)
  | buffering (value : BufferingMode)
  | sslMode (value : SslMode)
  deriving DecidableEq, Repr

namespace Value

def type : Value → ValueType
  | flag _ => .flag
  | int _ => .int
  | long _ => .long
  | text _ => .text
  | compression _ => .compression
  | format _ => .format
  | buffering _ => .buffering
  | sslMode _ => .sslMode

/-- The value that an element of a type's carrier makes. -/
def of : (type : ValueType) → type.Carrier → Value
  | .flag => flag
  | .int => int
  | .long => long
  | .text => text
  | .compression => compression
  | .format => format
  | .buffering => buffering
  | .sslMode => sslMode

/-- The element that a value of exactly this type was made from. -/
def as? : (type : ValueType) → Value → Option type.Carrier
  | .flag, flag value => some value
  | .int, int value => some value
  | .long, long value => some value
  | .text, text value => some value
  | .compression, compression value => some value
  | .format, format value => some value
  | .buffering, buffering value => some value
  | .sslMode, sslMode value => some value
  | _, _ => none

/-- Reading back gives exactly the value that was made. -/
theorem as?_eq_some_iff {type : ValueType} {value : Value} {element : type.Carrier} :
    value.as? type = some element ↔ value = of type element := by
  cases type <;> cases value <;> simp [as?, of]

/-- A value can be read at its own type and at no other. -/
theorem as?_isSome_iff {type : ValueType} {value : Value} :
    (value.as? type).isSome = true ↔ type = value.type := by
  cases type <;> cases value <;> simp [as?, Value.type]

def toText : Value → String
  | flag value => if value then "true" else "false"
  | int value => .ofList (Number.intText value.toInt)
  | long value => .ofList (Number.intText value.toInt)
  | text value => value
  | compression value => Enumerated.name value
  | format value => Enumerated.name value
  | buffering value => Enumerated.name value
  | sslMode value => Enumerated.name value

/-- Reads a whole number; the message quotes the text with its blanks. -/
def parseNumber {α : Type} (noun : String) (read : List Char → Except Number.IntegerFault α)
    (text : String) : Except Error α :=
  match read (trim text.toList) with
  | .ok value => .ok value
  | .error fault =>
    .error (.invalidInput ("'" ++ text ++ "' is not " ++ noun ++ ": " ++ fault.message))

def parse (value : String) : ValueType → Except Error Value
  | .flag =>
    let trimmed := trim value.toList
    .ok (flag (sameName trimmed ['t', 'r', 'u', 'e'] || trimmed == ['1']))
  | .int => (parseNumber "an Integer" Number.readInt32 value).map int
  | .long => (parseNumber "a Long" Number.readInt64 value).map long
  | .text => .ok (text value)
  | .compression => (Enumerated.parse value.toList).map compression
  | .format => (Enumerated.parse value.toList).map format
  | .buffering => (Enumerated.parse value.toList).map buffering
  | .sslMode => (Enumerated.parse value.toList).map sslMode

end Value

end Setting

end DbClient
