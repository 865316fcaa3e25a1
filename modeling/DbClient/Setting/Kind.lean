import DbClient.Enumerated

/-! The enumerated kinds of setting values, and the types that a setting can be declared
with. -/

namespace DbClient

/-- A compression algorithm used on the wire. -/
inductive Compression where
  | none
  | brotli
  | bz2
  | deflate
  | gzip
  | lz4
  | lzma
  | snappy
  | xz
  | zstd
  deriving DecidableEq, Repr, Inhabited

instance : Enumerated Compression where
  all := [.none, .brotli, .bz2, .deflate, .gzip, .lz4, .lzma, .snappy, .xz, .zstd]
  name
    | .none => "NONE"
    | .brotli => "BROTLI"
    | .bz2 => "BZ2"
    | .deflate => "DEFLATE"
    | .gzip => "GZIP"
    | .lz4 => "LZ4"
    | .lzma => "LZMA"
    | .snappy => "SNAPPY"
    | .xz => "XZ"
    | .zstd => "ZSTD"
  noun := "compression"

/-- The token of an algorithm in the header of a request, if it has one. -/
def Compression.encoding? : Compression → Option String
  | .none => Option.none
  | .brotli => "br"
  | .bz2 => "bz2"
  | .deflate => "deflate"
  | .gzip => "gzip"
  | .lz4 => "lz4"
  | .lzma => "lzma"
  | .snappy => "snappy"
  | .xz => "xz"
  | .zstd => "zstd"

/-- The format of the data in a request or a response. -/
inductive DataFormat where
  | tabSeparated
  | tabSeparatedRaw
  | tabSeparatedWithNames
  | tabSeparatedWithNamesAndTypes
  | csv
  | csvWithNames
  | json
  | jsonEachRow
  | jsonCompactEachRow
  | native
  | rowBinary
  | rowBinaryWithNames
  | rowBinaryWithNamesAndTypes
  | parquet
  | arrow
  | orc
  | values
  | pretty
  deriving DecidableEq, Repr, Inhabited

instance : Enumerated DataFormat where
  all := [.tabSeparated, .tabSeparatedRaw, .tabSeparatedWithNames,
    .tabSeparatedWithNamesAndTypes, .csv, .csvWithNames, .json, .jsonEachRow,
    .jsonCompactEachRow, .native, .rowBinary, .rowBinaryWithNames,
    .rowBinaryWithNamesAndTypes, .parquet, .arrow, .orc, .values, .pretty]
  name
    | .tabSeparated => "TabSeparated"
    | .tabSeparatedRaw => "TabSeparatedRaw"
    | .tabSeparatedWithNames => "TabSeparatedWithNames"
    | .tabSeparatedWithNamesAndTypes => "TabSeparatedWithNamesAndTypes"
    | .csv => "CSV"
    | .csvWithNames => "CSVWithNames"
    | .json => "JSON"
    | .jsonEachRow => "JSONEachRow"
    | .jsonCompactEachRow => "JSONCompactEachRow"
    | .native => "Native"
    | .rowBinary => "RowBinary"
    | .rowBinaryWithNames => "RowBinaryWithNames"
    | .rowBinaryWithNamesAndTypes => "RowBinaryWithNamesAndTypes"
    | .parquet => "Parquet"
    | .arrow => "Arrow"
    | .orc => "ORC"
    | .values => "Values"
    | .pretty => "Pretty"
  noun := "format"

/-- Whether data in a format are bytes rather than text. -/
def DataFormat.isBinary : DataFormat → Bool
  | .native | .rowBinary | .rowBinaryWithNames | .rowBinaryWithNamesAndTypes | .parquet
  | .arrow | .orc => true
  | _ => false

/-- How the buffers of a stream are managed. -/
inductive BufferingMode where
  /-- A queue of fixed length, with the least memory. -/
  | resourceEfficient
  /-- A queue that grows under load. -/
  | performance
  /-- Sizes and queue length as set. -/
  | custom
  deriving DecidableEq, Repr, Inhabited

instance : Enumerated BufferingMode where
  all := [.resourceEfficient, .performance, .custom]
  name
    | .resourceEfficient => "RESOURCE_EFFICIENT"
    | .performance => "PERFORMANCE"
    | .custom => "CUSTOM"
  noun := "buffering mode"

/-- How far the certificate of a server is verified. -/
inductive SslMode where
  /-- Any certificate is trusted. -/
  | none
  /-- The chain of certificates and the host name are verified. -/
  | strict
  deriving DecidableEq, Repr

instance : Inhabited SslMode := ⟨.strict⟩

instance : Enumerated SslMode where
  all := [.none, .strict]
  name
    | .none => "NONE"
    | .strict => "STRICT"
  noun := "ssl mode"

/-- The type that a setting is declared with. -/
inductive ValueType where
  | flag
  | int
  | long
  | text
  | compression
  | format
  | buffering
  | sslMode
  deriving DecidableEq, Repr

instance : Enumerated ValueType where
  all := [.flag, .int, .long, .text, .compression, .format, .buffering, .sslMode]
  name
    | .flag => "Boolean"
    | .int => "Integer"
    | .long => "Long"
    | .text => "String"
    | .compression => "Compression"
    | .format => "Format"
    | .buffering => "BufferingMode"
    | .sslMode => "SslMode"
  noun := "value type"

/-- The values of a declared type. -/
@[reducible]
def ValueType.Carrier : ValueType → Type
  | .flag => Bool
  | .int => Int32
  | .long => Int64
  | .text => String
  | .compression => Compression
  | .format => DataFormat
  | .buffering => BufferingMode
  | .sslMode => SslMode

/-- The value of a type that stands where none can be read. -/
def ValueType.blank : (type : ValueType) → type.Carrier
  | .flag => false
  | .int => 0
  | .long => 0
  | .text => ""
  | .compression => default
  | .format => default
  | .buffering => default
  | .sslMode => default

end DbClient
