import DbClient.Json.Decoder
import DbClient.Node.Protocol
import DbClient.SortedMap

/-! Selectors of server nodes by protocol and by tag. An empty preference accepts everything. -/

namespace DbClient

open Text

abbrev TagSet := SortedMap String Unit

def TagSet.ofList (tags : List String) : TagSet :=
  SortedMap.ofList (tags.map fun tag => (tag, ()))

/-- The preferences by which server nodes are selected. -/
structure NodeSelector where
  protocols : List Protocol
  tags : TagSet
  deriving DecidableEq

namespace NodeSelector

/-- The selector that accepts every node. -/
def empty : NodeSelector := ⟨[], .empty⟩

/-- The members of a list without repetitions, in the order of first occurrence. -/
def distinct (protocols : List Protocol) : List Protocol :=
  protocols.foldl (fun kept protocol => if protocol ∈ kept then kept else kept ++ [protocol]) []

/-- A selector from preferences in any order; blank tags are no preference. -/
def of (protocols : List Protocol) (tags : List String) : NodeSelector :=
  ⟨distinct protocols, .ofList (tags.filter fun tag => !isBlankText tag)⟩

def isEmpty (selector : NodeSelector) : Bool :=
  selector.protocols.isEmpty && selector.tags.isEmpty

/-- Whether a node that speaks this protocol is acceptable. -/
def acceptsProtocol (selector : NodeSelector) (protocol : Protocol) : Bool :=
  selector.protocols.isEmpty || protocol = .any ||
    selector.protocols.any fun preferred => preferred = .any || preferred = protocol

/-- Whether a node that carries these tags is acceptable: one preferred tag is enough. -/
def acceptsTags (selector : NodeSelector) (tags : List String) : Bool :=
  selector.tags.isEmpty || tags.any selector.tags.contains

/-- The document of a selector, without the preferences that are empty. -/
def toJson (selector : NodeSelector) : Json :=
  let protocols := if selector.protocols.isEmpty then [] else
    [("preferred_protocols",
      Json.array (selector.protocols.map fun protocol => .string (Enumerated.name protocol)))]
  let tags := if selector.tags.isEmpty then [] else
    [("preferred_tags", Json.array (selector.tags.keys.map .string))]
  .object (protocols ++ tags)

def readProtocols? : Json → Option (List Protocol)
  | .array items => items.mapM Enumerated.ofJson?
  | _ => none

def readTags? : Json → Option TagSet
  | .array items =>
    (items.mapM fun item => (Decoder.string item).toOption).map TagSet.ofList
  | _ => none

/-- Reads a selector from its preferences, where a missing one is empty. -/
def readFields? (protocols tags : Option Json) : Option NodeSelector := do
  let protocols ← match protocols with
    | none => some []
    | some document => readProtocols? document
  let tags ← match tags with
    | none => some .empty
    | some document => readTags? document
  return ⟨protocols, tags⟩

/-- Reads a selector from an object with the two preferences among its members, or from an
array of at most two elements. Nothing is dropped, neither repeated protocols nor blank tags. -/
def ofJson? : Json → Option NodeSelector
  | .object members =>
    readFields? (members.lookup "preferred_protocols") (members.lookup "preferred_tags")
  | .array [] => readFields? none none
  | .array [protocols] => readFields? (some protocols) none
  | .array [protocols, tags] => readFields? (some protocols) (some tags)
  | _ => none

end NodeSelector

end DbClient
