import DbClient.Number.Decimal
import DbClient.Number.Integer
import DbClient.Text.AsciiCase

/-! Text of binary floating-point numbers. Writing gives the shortest digits that read back,
laid out by a `FloatLayout`; reading rounds correctly. -/

namespace DbClient.Number

/-- How a finite number is laid out around its shortest digits. -/
structure FloatLayout where
  /-- The least position of the decimal point that is written without an exponent. -/
  leastPoint : Int
  /-- The greatest position of the decimal point that is written without an exponent. -/
  greatestPoint : Int
  /-- Whether an exponent that is not negative carries a plus sign. -/
  plusSign : Bool
  tie : TieRule
  deriving DecidableEq, Repr

namespace FloatLayout

/-- Digits without an exponent, with the point at the given position and at least one digit
on either side of it. -/
def positional (digits : List Char) (point : Int) : List Char :=
  if point ≤ 0 then '0' :: '.' :: List.replicate (-point).toNat '0' ++ digits
  else if digits.length ≤ point.toNat then
    digits ++ List.replicate (point.toNat - digits.length) '0' ++ ['.', '0']
  else digits.take point.toNat ++ '.' :: digits.drop point.toNat

/-- Digits with an exponent, with the point behind the first digit, if another one follows. -/
def scientific (layout : FloatLayout) (digits : List Char) (point : Int) : List Char :=
  let exponent := point - 1
  let sign := if layout.plusSign ∧ 0 ≤ exponent then ['+'] else []
  let mantissa := match digits with
    | first :: second :: rest => first :: '.' :: second :: rest
    | short => short
  mantissa ++ 'e' :: sign ++ intText exponent

/-- The decimal digits of a natural number without the zeros at their end. -/
def significantText (n : Nat) : List Char :=
  ((natText n).reverse.dropWhile (· == '0')).reverse

def decimalText (layout : FloatLayout) (decimal : Decimal) : List Char :=
  let digits := significantText decimal.digits
  if layout.leastPoint ≤ decimal.point ∧ decimal.point ≤ layout.greatestPoint then
    positional digits decimal.point
  else layout.scientific digits decimal.point

def magnitudeText (layout : FloatLayout) (format : BinaryFormat) (pattern : Nat) : List Char :=
  if pattern = 0 then ['0', '.', '0']
  else layout.decimalText (format.shortestDecimal layout.tie pattern)

end FloatLayout

/-- Diagnostics write magnitudes from a ten thousandth up to ten to the sixteenth without an
exponent. -/
def plainLayout : FloatLayout := ⟨-3, 16, false, .up⟩

/-- A number as read from text, before it is rounded to a format. -/
inductive Numeral where
  | notANumber
  | infinite (negative : Bool)
  | finite (negative : Bool) (value : Decimal)
  deriving DecidableEq, Repr

namespace Numeral

/-- Reads what follows the mantissa: nothing, or a mark and an exponent. -/
def readExponent? : List Char → Option Int
  | [] => some 0
  | mark :: rest =>
    if mark.toLower ≠ 'e' then none
    else
      let (negative, digits) := match rest with
        | '-' :: digits => (true, digits)
        | '+' :: digits => (false, digits)
        | digits => (false, digits)
      if digits.isEmpty || !digits.all Char.isDigit then none
      else some (if negative then -natOfDigits digits else natOfDigits digits)

/-- Reads digits with at most one point among them and at least one digit, and an optional
exponent. -/
def readDecimal? (text : List Char) : Option Decimal :=
  let whole := text.takeWhile Char.isDigit
  let rest := text.dropWhile Char.isDigit
  let (places, rest) := match rest with
    | '.' :: rest => (rest.takeWhile Char.isDigit, rest.dropWhile Char.isDigit)
    | rest => ([], rest)
  if whole.isEmpty && places.isEmpty then none
  else (readExponent? rest).map fun exponent =>
    ⟨natOfDigits (whole ++ places), exponent - places.length⟩

/-- Reads a magnitude: a word for infinity or for no number, in any case, or a decimal. -/
def readMagnitude? (negative : Bool) (text : List Char) : Option Numeral :=
  if Text.sameName text ['i', 'n', 'f'] ||
      Text.sameName text ['i', 'n', 'f', 'i', 'n', 'i', 't', 'y'] then some (infinite negative)
  else if Text.sameName text ['n', 'a', 'n'] then some notANumber
  else (readDecimal? text).map (finite negative)

def read? : List Char → Option Numeral
  | '-' :: text => readMagnitude? true text
  | '+' :: text => readMagnitude? false text
  | text => readMagnitude? false text

/-- The pattern nearest to a numeral, its sign included. -/
def toPattern (format : BinaryFormat) : Numeral → Nat
  | notANumber => format.infinity + format.binade / 2
  | infinite negative => (if negative then format.signWeight else 0) + format.infinity
  | finite negative value =>
    (if negative then format.signWeight else 0) + value.toBinary format

end Numeral

def patternText (layout : FloatLayout) (format : BinaryFormat) (pattern : Nat) : List Char :=
  let magnitude := pattern % format.signWeight
  let sign := if pattern = magnitude then [] else ['-']
  if magnitude < format.infinity then sign ++ layout.magnitudeText format magnitude
  else if magnitude = format.infinity then sign ++ ['i', 'n', 'f']
  else ['N', 'a', 'N']

def floatText (x : Float) : List Char :=
  patternText plainLayout .binary64 x.toBits.toNat

/-- The text of a number of 32 bits, by its own shortest digits. -/
def float32Text (x : Float32) : List Char :=
  patternText plainLayout .binary32 x.toBits.toNat

/-- The number of 64 bits nearest to what a text denotes. -/
def readFloat? (text : List Char) : Option Float :=
  (Numeral.read? text).map fun numeral => Float.ofBits (numeral.toPattern .binary64).toUInt64

/-- The number of 32 bits nearest to what a text denotes. -/
def readFloat32? (text : List Char) : Option Float32 :=
  (Numeral.read? text).map fun numeral => Float32.ofBits (numeral.toPattern .binary32).toUInt32

def floatOfInt (n : Int) : Float :=
  let sign := if n < 0 then BinaryFormat.binary64.signWeight else 0
  Float.ofBits (sign + BinaryFormat.binary64.round n.natAbs 1).toUInt64

def floatPowerOfTen (exponent : Nat) : Float :=
  Float.ofBits (Decimal.toBinary ⟨1, exponent⟩ .binary64).toUInt64

end DbClient.Number
