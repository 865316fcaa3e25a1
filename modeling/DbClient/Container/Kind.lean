import DbClient.Enumerated
import DbClient.Json.Basic

/-! The kinds of typed containers. -/

namespace DbClient

/-- What a typed container holds. -/
inductive ContainerKind where
  | bool
  | int8
  | int16
  | int32
  | int64
  | int128
  | float32
  | float64
  | decimal
  | string
  | uuid
  | enumeration
  | ipv4
  | ipv6
  | date
  | dateTime
  | array
  | tuple
  | map
  | point
  | ring
  | polygon
  | multiPolygon
  deriving DecidableEq, Repr

instance : Enumerated ContainerKind where
  all := [.bool, .int8, .int16, .int32, .int64, .int128, .float32, .float64, .decimal, .string,
    .uuid, .enumeration, .ipv4, .ipv6, .date, .dateTime, .array, .tuple, .map, .point, .ring,
    .polygon, .multiPolygon]
  name
    | .bool => "Bool"
    | .int8 => "Int8"
    | .int16 => "Int16"
    | .int32 => "Int32"
    | .int64 => "Int64"
    | .int128 => "Int128"
    | .float32 => "Float32"
    | .float64 => "Float64"
    | .decimal => "Decimal"
    | .string => "String"
    | .uuid => "UUID"
    | .enumeration => "Enum"
    | .ipv4 => "IPv4"
    | .ipv6 => "IPv6"
    | .date => "Date"
    | .dateTime => "DateTime"
    | .array => "Array"
    | .tuple => "Tuple"
    | .map => "Map"
    | .point => "Point"
    | .ring => "Ring"
    | .polygon => "Polygon"
    | .multiPolygon => "MultiPolygon"
  noun := "value kind"

/-- The document of a kind: its name, in which only the first letter of an abbreviation for
identifiers is a capital. -/
def ContainerKind.toJson : ContainerKind → Json
  | .uuid => .string "Uuid"
  | kind => .string (Enumerated.name kind)

end DbClient
