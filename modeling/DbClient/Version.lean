import DbClient.Number.Integer
import DbClient.Text.AsciiCase
import DbClient.Text.Blank
import DbClient.Text.Split

/-! Versions of a server. Numbered versions have up to four parts and are ordered part by
part; the latest version is above all of them. Two versions are the same when their parts are,
however many of them were written out. -/

namespace DbClient

open Text

structure Release where
  year : UInt32
  feature : UInt32
  maintenance : UInt32
  build : UInt32
  deriving DecidableEq, Repr

namespace Release

/-- The parts in order of weight. -/
def toList (release : Release) : List UInt32 :=
  [release.year, release.feature, release.maintenance, release.build]

/-- The release with the first four parts of a list, and zero for missing ones. -/
def ofList (parts : List UInt32) : Release :=
  ⟨parts.getD 0 0, parts.getD 1 0, parts.getD 2 0, parts.getD 3 0⟩

end Release

inductive Version where
  | latest
  /-- A release, of which `specified` parts were written out. -/
  | numbered (release : Release) (specified : Nat)
  deriving DecidableEq, Repr

namespace Version

/-- A version with all its parts. -/
def ofParts (year feature maintenance build : UInt32) : Version :=
  numbered ⟨year, feature, maintenance, build⟩ 4

/-- The value of digits, or the greatest value that a part can have. -/
def readPart (digits : List Char) : UInt32 :=
  .ofNat (min (Number.natOfDigits digits) (UInt32.size - 1))

/-- Reads parts up to the first one that does not begin with a digit, or the first one that has
a suffix, which is ignored. -/
def readParts : List (List Char) → List UInt32
  | [] => []
  | piece :: pieces =>
    let digits := piece.takeWhile Char.isDigit
    if digits.isEmpty then []
    else if digits.length < piece.length then [readPart digits]
    else readPart digits :: readParts pieces

/-- Reads a version. Blank text and the word `latest` denote the latest one; in any other text
the parts start at the first digit. -/
def parse (text : String) : Version :=
  let trimmed := trim text.toList
  if trimmed.isEmpty || sameName trimmed ['l', 'a', 't', 'e', 's', 't'] then latest
  else
    let parts := readParts ((splitOn '.' (trimmed.dropWhile (!·.isDigit))).take 4)
    numbered (.ofList parts) parts.length

def isLatest : Version → Bool
  | latest => true
  | numbered .. => false

/-- The parts of a version; the latest one shows zeros. -/
def release : Version → Release
  | latest => ⟨0, 0, 0, 0⟩
  | numbered release _ => release

/-- The total order of versions. -/
def order : Version → Version → Ordering
  | numbered left _, numbered right _ => compare left.toList right.toList
  | numbered .., latest => .lt
  | latest, numbered .. => .gt
  | latest, latest => .eq

def same : Version → Version → Bool
  | numbered left _, numbered right _ => left = right
  | latest, latest => true
  | _, _ => false

/-- Compares only the leading parts that the second version writes out, at least one. -/
def orderPrefix : Version → Version → Ordering
  | numbered left _, numbered right specified =>
    let count := max specified 1
    compare (left.toList.take count) (right.toList.take count)
  | numbered .., latest => .lt
  | latest, numbered .. => .gt
  | latest, latest => .eq

/-- Whether a version is the one that a text denotes, or a newer one. -/
def isAtLeast (version : Version) (text : String) : Bool :=
  version.orderPrefix (parse text) != .lt

/-- Whether a version is older than the one that a text denotes. -/
def isOlderThan (version : Version) (text : String) : Bool :=
  version.orderPrefix (parse text) == .lt

def toText : Version → String
  | latest => "latest"
  | numbered release _ =>
    ".".intercalate (release.toList.map fun part => .ofList (Number.natText part.toNat))

end Version

end DbClient
