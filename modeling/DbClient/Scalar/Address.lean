import DbClient.Number.Integer
import DbClient.Text.AsciiCase
import DbClient.Text.Hex
import DbClient.Text.Split

/-! Network addresses and universally unique identifiers, and their text. -/

namespace DbClient

open Number Text

structure Ipv4Address where
  octets : Vector UInt8 4
  deriving DecidableEq

namespace Ipv4Address

/-- The octets in decimal, separated by points. -/
def toText (address : Ipv4Address) : List Char :=
  ['.'].intercalate (address.octets.toList.map fun octet => natText octet.toNat)

/-- Reads an octet, which has no leading zero. -/
def readOctet? (digits : List Char) : Option UInt8 :=
  if digits.isEmpty || 3 < digits.length || !digits.all Char.isDigit ||
      (digits.head? = some '0' && 1 < digits.length) || 255 < natOfDigits digits then none
  else some (.ofNat (natOfDigits digits))

def parse? (text : List Char) : Option Ipv4Address := do
  let octets ← (splitOn '.' text).mapM readOctet?
  if h : octets.toArray.size = 4 then some ⟨octets.toArray, h⟩ else none

end Ipv4Address

structure Ipv6Address where
  groups : Vector UInt16 8
  deriving DecidableEq

namespace Ipv6Address

/-- The address of thirty-two bits that is mapped into this one, if there is one. -/
def mapped? (address : Ipv6Address) : Option Ipv4Address :=
  let high := address.groups[6]
  let low := address.groups[7]
  if address.groups.toList.take 6 = [0, 0, 0, 0, 0, 0xffff] then
    some ⟨#v[(high >>> 8).toUInt8, high.toUInt8, (low >>> 8).toUInt8, low.toUInt8]⟩
  else none

/-- The number of groups that are zero from an index on. -/
def zerosFrom (groups : List UInt16) (start : Nat) : Nat :=
  ((groups.drop start).takeWhile (· = 0)).length

/-- Where the longest run of zero groups starts, the first one of several. -/
def longestZeros (groups : List UInt16) : Nat :=
  (List.range groups.length).foldl
    (fun best start => if zerosFrom groups best < zerosFrom groups start then start else best) 0

/-- Groups in hexadecimal, separated by colons. -/
def groupsText (groups : List UInt16) : List Char :=
  [':'].intercalate (groups.map fun group => hexDigits group.toNat)

/-- The groups of an address, with two colons for the longest run of at least two zeros. A
mapped address ends in its decimal octets. -/
def toText (address : Ipv6Address) : List Char :=
  match address.mapped? with
  | some mapped => [':', ':', 'f', 'f', 'f', 'f', ':'] ++ mapped.toText
  | none =>
    let groups := address.groups.toList
    let start := longestZeros groups
    let count := zerosFrom groups start
    if count < 2 then groupsText groups
    else groupsText (groups.take start) ++ ':' :: ':' :: groupsText (groups.drop (start + count))

/-- Reads a group of one to four digits. -/
def readGroup? (digits : List Char) : Option UInt16 :=
  if digits.isEmpty || 4 < digits.length then none
  else (natOfHex? digits).map .ofNat

/-- Reads groups, the last two of which may be written as decimal octets if `decimal` allows
it. -/
def readGroups? (decimal : Bool) : List (List Char) → Option (List UInt16)
  | [] => some []
  | [last] =>
    match readGroup? last, Ipv4Address.parse? last with
    | some group, _ => some [group]
    | none, some address =>
      let octet (i : Fin 4) : UInt16 := address.octets[i].toUInt16
      if decimal then some [256 * octet 0 + octet 1, 256 * octet 2 + octet 3] else none
    | none, none => none
  | first :: rest => do
    let group ← readGroup? first
    let groups ← readGroups? decimal rest
    return group :: groups

/-- The text before and the text behind the first two colons in a row. -/
def splitElision? : List Char → Option (List Char × List Char)
  | ':' :: ':' :: rest => some ([], rest)
  | c :: rest => (splitElision? rest).map fun (before, behind) => (c :: before, behind)
  | [] => none

def ofGroups? (groups : List UInt16) : Option Ipv6Address :=
  if h : groups.toArray.size = 8 then some ⟨groups.toArray, h⟩ else none

/-- The pieces between colons; an empty text has none. -/
def pieces (text : List Char) : List (List Char) :=
  if text.isEmpty then [] else splitOn ':' text

/-- Reads eight groups, or fewer with two colons for at least one group of zeros. -/
def parse? (text : List Char) : Option Ipv6Address :=
  match splitElision? text with
  | none => (readGroups? true (pieces text)).bind ofGroups?
  | some (before, behind) => do
    let head ← readGroups? false (pieces before)
    let tail ← readGroups? true (pieces behind)
    if 7 < head.length + tail.length then none
    else ofGroups? (head ++ List.replicate (8 - (head.length + tail.length)) 0 ++ tail)

end Ipv6Address

structure Uuid where
  bytes : Vector UInt8 16
  deriving DecidableEq

namespace Uuid

/-- How many bytes stand in each group of an identifier. -/
def groupSizes : List Nat := [4, 2, 2, 2, 6]

/-- The leading bytes in groups of these sizes. -/
def group : List Nat → List UInt8 → List (List UInt8)
  | [], _ => []
  | size :: sizes, bytes => bytes.take size :: group sizes (bytes.drop size)

/-- The groups in hexadecimal, separated by hyphens. -/
def toText (uuid : Uuid) : List Char :=
  ['-'].intercalate ((group groupSizes uuid.bytes.toList).map (·.flatMap hexPair))

/-- The text without the braces around it or without the name space before it, whose case does
not matter. -/
def unwrap? (text : List Char) : Option (List Char) :=
  if text.head? = some '\x7b' ∧ text.getLast? = some '\x7d' then some text.tail.dropLast
  else dropName? "urn:uuid:".toList text

def ofHex? (digits : List Char) : Option Uuid := do
  let bytes ← bytesOfHex? digits
  if h : bytes.toArray.size = 16 then some ⟨bytes.toArray, h⟩ else none

/-- Reads groups separated by hyphens, which may be wrapped, or all digits in a row. -/
def parse? (text : List Char) : Option Uuid :=
  if text.length = 32 then ofHex? text
  else
    let groups := splitOn '-' ((unwrap? text).getD text)
    if groups.map List.length = groupSizes.map (2 * ·) then ofHex? groups.flatten else none

end Uuid

end DbClient
