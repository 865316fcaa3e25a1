import DbClient.Number.Scaled
import DbClient.Scalar.Address
import DbClient.Scalar.Calendar
import DbClient.Text.Quoted

/-! Scalars: the single values that a client hands to the driver. Every scalar has a text; the
numeric ones also have a floating-point value. -/

namespace DbClient

inductive Scalar where
  | flag (value : Bool)
  | char (value : Char)
  | byte (value : Int8)
  | short (value : Int16)
  | int (value : Int32)
  | long (value : Int64)
  | bigInteger (value : Int)
  | float (value : Float32)
  | double (value : Float)
  /-- The number `unscaled` divided by ten to the power `scale`. -/
  | decimal (unscaled : Int) (scale : Nat)
  | text (value : String)
  | uuid (value : Uuid)
  /-- The constant of an enumerated type with this name. -/
  | constant (name : String)
  | ipv4 (value : Ipv4Address)
  | ipv6 (value : Ipv6Address)
  | date (value : Date)
  | time (value : Time)
  | dateTime (day : Date) (clock : Time)
  deriving DecidableEq

namespace Scalar

/-- The name of a scalar's type in messages. -/
def typeName : Scalar → String
  | flag _ => "Boolean"
  | char _ => "Char"
  | byte _ => "Byte"
  | short _ => "Short"
  | int _ => "Integer"
  | long _ => "Long"
  | bigInteger _ => "BigInteger"
  | float _ => "Float"
  | double _ => "Double"
  | decimal .. => "BigDecimal"
  | text _ => "String"
  | uuid _ => "UUID"
  | constant _ => "Enum"
  | ipv4 _ => "Inet4Address"
  | ipv6 _ => "Inet6Address"
  | date _ => "Date"
  | time _ => "Time"
  | dateTime .. => "DateTime"

/-- The floating-point value of a numeric scalar. -/
def float? : Scalar → Option Float
  | byte value => some (Number.floatOfInt value.toInt)
  | short value => some (Number.floatOfInt value.toInt)
  | int value => some (Number.floatOfInt value.toInt)
  | long value => some (Number.floatOfInt value.toInt)
  | bigInteger value => some (Number.floatOfInt value)
  | float value => some value.toFloat
  | double value => some value
  | decimal unscaled scale => some (Number.scaledFloat unscaled scale)
  | _ => none

def chars : Scalar → List Char
  | flag value => if value then ['t', 'r', 'u', 'e'] else ['f', 'a', 'l', 's', 'e']
  | char value => [value]
  | byte value => Number.intText value.toInt
  | short value => Number.intText value.toInt
  | int value => Number.intText value.toInt
  | long value => Number.intText value.toInt
  | bigInteger value => Number.intText value
  | float value => Number.float32Text value
  | double value => Number.floatText value
  | decimal unscaled scale => Number.scaledText unscaled scale
  | text value => value.toList
  | uuid value => value.toText
  | constant name => name.toList
  | ipv4 value => value.toText
  | ipv6 value => value.toText
  | date value => value.toText
  | time value => value.toText
  | dateTime day clock => day.toText ++ ' ' :: clock.toText

def toText (scalar : Scalar) : String :=
  .ofList scalar.chars

/-- The text of a scalar for diagnostics, which shows the variant that it is. -/
def describe : Scalar → String
  | flag value => "Bool(" ++ (flag value).toText ++ ")"
  | char value => "Char(" ++ Text.quoteChar value ++ ")"
  | byte value => "Byte(" ++ (byte value).toText ++ ")"
  | short value => "Short(" ++ (short value).toText ++ ")"
  | int value => "Int(" ++ (int value).toText ++ ")"
  | long value => "Long(" ++ (long value).toText ++ ")"
  | bigInteger value => "BigInteger(" ++ (bigInteger value).toText ++ ")"
  | float value => "Float(" ++ (float value).toText ++ ")"
  | double value => "Double(" ++ (double value).toText ++ ")"
  | decimal unscaled scale =>
    "Decimal \x7b unscaled: " ++ .ofList (Number.intText unscaled) ++ ", scale: " ++
      .ofList (Number.natText scale) ++ " \x7d"
  | text value => "Str(" ++ Text.quote value ++ ")"
  | uuid value => "Uuid(" ++ (uuid value).toText ++ ")"
  | constant name => "Enum(" ++ Text.quote name ++ ")"
  | ipv4 value => "Ipv4(" ++ (ipv4 value).toText ++ ")"
  | ipv6 value => "Ipv6(" ++ (ipv6 value).toText ++ ")"
  | date value => "Date(" ++ (date value).toText ++ ")"
  | time value => "Time(" ++ (time value).toText ++ ")"
  | dateTime day clock =>
    "DateTime(" ++ .ofList (day.toText ++ 'T' :: clock.toText) ++ ")"

end Scalar

end DbClient
