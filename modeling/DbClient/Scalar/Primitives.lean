import DbClient.Scalar.Basic

/-! Lists of elements that all have one primitive type. Every element has a floating-point
value: flags are one or zero, and characters are their code points. -/

namespace DbClient

/-- A list of elements of one primitive type. -/
inductive Primitives where
  | flags (values : List Bool)
  | chars (values : List Char)
  | bytes (values : List Int8)
  | shorts (values : List Int16)
  | ints (values : List Int32)
  | longs (values : List Int64)
  | floats (values : List Float32)
  | doubles (values : List Float)
  deriving DecidableEq

namespace Primitives

/-- The number of elements. -/
def length : Primitives → Nat
  | flags values => values.length
  | chars values => values.length
  | bytes values => values.length
  | shorts values => values.length
  | ints values => values.length
  | longs values => values.length
  | floats values => values.length
  | doubles values => values.length

/-- The elements as floating-point numbers. -/
def toFloats : Primitives → List Float
  | flags values => values.map fun value => if value then 1.0 else 0.0
  | chars values => values.map fun value => Number.floatOfInt value.toNat
  | bytes values => values.map fun value => Number.floatOfInt value.toInt
  | shorts values => values.map fun value => Number.floatOfInt value.toInt
  | ints values => values.map fun value => Number.floatOfInt value.toInt
  | longs values => values.map fun value => Number.floatOfInt value.toInt
  | floats values => values.map Float32.toFloat
  | doubles values => values

/-- The texts of the elements. -/
def texts : Primitives → List String
  | flags values => values.map fun value => if value then "true" else "false"
  | chars values => values.map fun value => .ofList [value]
  | bytes values => values.map fun value => .ofList (Number.intText value.toInt)
  | shorts values => values.map fun value => .ofList (Number.intText value.toInt)
  | ints values => values.map fun value => .ofList (Number.intText value.toInt)
  | longs values => values.map fun value => .ofList (Number.intText value.toInt)
  | floats values => values.map fun value => .ofList (Number.float32Text value)
  | doubles values => values.map fun value => .ofList (Number.floatText value)

/-- The text of the elements in brackets. -/
def toText (values : Primitives) : String :=
  Text.bracketed values.texts

/-- The text for diagnostics, which shows the type of the elements. -/
def describe : Primitives → String
  | flags values => "Bool(" ++ (flags values).toText ++ ")"
  | chars values => "Char(" ++ Text.bracketed (values.map Text.quoteChar) ++ ")"
  | bytes values => "Byte(" ++ (bytes values).toText ++ ")"
  | shorts values => "Short(" ++ (shorts values).toText ++ ")"
  | ints values => "Int(" ++ (ints values).toText ++ ")"
  | longs values => "Long(" ++ (longs values).toText ++ ")"
  | floats values => "Float(" ++ (floats values).toText ++ ")"
  | doubles values => "Double(" ++ (doubles values).toText ++ ")"

end Primitives

end DbClient
