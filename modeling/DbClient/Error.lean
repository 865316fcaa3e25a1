import DbClient.Setting.Kind

/-! What can go wrong, by cause. Every error carries the offending text or type; its wording
is in `Error.message` and its stable code in `Error.code`. -/

namespace DbClient

/-- Why an operation on settings or values was refused. -/
inductive Error where
  /-- A setting was read or written at another type than its declared one. -/
  | typeMismatch (setting : String) (declared requested : ValueType)
  /-- A text does not denote a value of the type that a setting is declared with. -/
  | invalidSettingText (key text reason : String)
  /-- Data of one kind cannot become a value of another kind. -/
  | unsupportedConversion (source target : String)
  /-- A point was built from anything but two coordinates. -/
  | invalidPoint (input : String)
  /-- A coordinate is neither a number nor the text of one. -/
  | numberFormat (text : String)
  /-- A text or a document is malformed, or does not fit the wanted type. -/
  | invalidInput (reason : String)
  /-- The collaborator that lists clients failed. -/
  | discovery (reason : String)
  deriving DecidableEq, Repr

namespace Error

/-- The code by which callers tell the causes apart. -/
def code : Error → String
  | typeMismatch .. => "TYPE_MISMATCH"
  | invalidSettingText .. => "INVALID_OPTION_VALUE"
  | unsupportedConversion .. => "UNSUPPORTED_CONVERSION"
  | invalidPoint _ => "INVALID_POINT"
  | numberFormat _ => "NUMBER_FORMAT"
  | invalidInput _ => "INVALID_INPUT"
  | discovery _ => "DISCOVERY_FAILED"

def message : Error → String
  | typeMismatch setting declared requested =>
    "Cannot convert value of option '" ++ setting ++ "' from type " ++
      Enumerated.name declared ++ " to " ++ Enumerated.name requested
  | invalidSettingText key text reason =>
    "Invalid value '" ++ text ++ "' for option '" ++ key ++ "': " ++ reason
  | unsupportedConversion source target =>
    "Converting " ++ source ++ " to " ++ target ++ " is not supported"
  | invalidPoint input =>
    "A point should have two and only two double values, but we got: " ++ input
  | numberFormat text => "Not a number: " ++ text
  | invalidInput reason => "Invalid input: " ++ reason
  | discovery reason => "Client discovery failed: " ++ reason

end Error

end DbClient
