import DbClient.Environment
import DbClient.Number.Integer
import DbClient.Text.AsciiCase
import DbClient.Text.Blank

/-! Time zones: an offset from UTC, or a name whose rules are kept elsewhere. -/

namespace DbClient

open Text

/-- A time zone by name, or by its offset from UTC in seconds. -/
inductive Zone where
  | named (name : String)
  | fixed (seconds : Int)
  deriving DecidableEq, Repr

namespace Zone

def utc : Zone := fixed 0

def utcNames : List (List Char) :=
  ["UTC", "GMT", "UCT", "Z", "Zulu", "Etc/UTC", "Etc/GMT"].map String.toList

/-- Hours and minutes of an offset without its sign: `hours:minutes`, four digits for both, or
hours alone. -/
def splitOffset (body : List Char) : List Char × List Char :=
  if ':' ∈ body then (body.takeWhile (· ≠ ':'), (body.dropWhile (· ≠ ':')).drop 1)
  else if body.length = 4 then body.splitAt 2
  else (body, ['0'])

/-- Reads a signed offset of at most eighteen hours and fifty-nine minutes, in seconds. -/
def readOffset? : List Char → Option Int
  | [] => none
  | sign :: body =>
    if sign ≠ '+' ∧ sign ≠ '-' then none
    else
      let (hours, minutes) := splitOffset body
      if hours.isEmpty || minutes.isEmpty || !hours.all Char.isDigit || !minutes.all Char.isDigit
      then none
      else
        let h := Number.natOfDigits hours
        let m := Number.natOfDigits minutes
        if 18 < h ∨ 59 < m then none
        else
          let seconds : Int := (3600 * h + 60 * m : Nat)
          some (if sign = '-' then -seconds else seconds)

/-- What stands behind a leading `UTC` or `GMT`, or all of the text. -/
def dropUtc (text : List Char) : List Char :=
  ((dropName? ['U', 'T', 'C'] text).or (dropName? ['G', 'M', 'T'] text)).getD text

/-- Reads a zone; blank text denotes none. A text that is neither a name of universal time nor
an offset is kept as a name. -/
def parse? (text : String) : Option Zone :=
  let name := trim text.toList
  if name.isEmpty then none
  else if utcNames.any (sameName name) then some utc
  else match readOffset? (dropUtc name) with
    | some seconds => some (fixed seconds)
    | none => some (named (.ofList name))

/-- An offset as its sign, hours and minutes, and seconds if there are any. -/
def offsetText (seconds : Int) : List Char :=
  let all := seconds.natAbs
  let sign := if seconds < 0 then '-' else '+'
  let rest := if all % 60 = 0 then [] else ':' :: Number.paddedText 2 (all % 60)
  sign :: Number.paddedText 2 (all / 3600) ++ ':' :: Number.paddedText 2 (all / 60 % 60) ++ rest

def id : Zone → String
  | named name => name
  | fixed seconds => if seconds = 0 then "UTC" else .ofList (offsetText seconds)

/-- The offset, for a zone that has a fixed one. -/
def offset? : Zone → Option Int
  | named _ => none
  | fixed seconds => some seconds

/-- The zone of the process: what the variable `TZ` denotes behind leading colons, else the
offset of local time. -/
def ofEnvironment (env : Environment) : Zone :=
  match env.lookup? "TZ" with
  | none => fixed env.localOffset
  | some text =>
    (parse? (.ofList (text.toList.dropWhile (· = ':')))).getD (fixed env.localOffset)

end Zone

end DbClient
