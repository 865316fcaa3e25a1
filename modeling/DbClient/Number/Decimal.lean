import DbClient.Number.Binary

/-! Decimal numbers with an exponent, and the shortest one that reads back as a given binary
pattern. -/

namespace DbClient.Number

/-- The magnitude `digits * 10 ^ exponent`. -/
structure Decimal where
  digits : Nat
  exponent : Int
  deriving DecidableEq, Repr

namespace Decimal

def length (n : Nat) : Nat :=
  (Nat.toDigits 10 n).length

/-- Where the decimal point stands, counted from the first digit to the right. -/
def point (decimal : Decimal) : Int :=
  length decimal.digits + decimal.exponent

/-- Exponents of ten beyond which every binary format of this library gives infinity or zero. -/
def reach : Int := 400

def toBinary (decimal : Decimal) (format : BinaryFormat) : Nat :=
  if decimal.digits = 0 ∨ decimal.point < -reach then 0
  else if reach < decimal.point then format.infinity
  else format.round (decimal.digits * .pow 10 decimal.exponent.toNat)
    (.pow 10 (-decimal.exponent).toNat)

end Decimal

/-- Which of two equally near decimals is taken. -/
inductive TieRule where
  | up
  | even
  deriving DecidableEq, Repr

namespace BinaryFormat

variable (format : BinaryFormat)

/-- A finite pattern as a decimal without rounding: a power of two below one is a power of
five over a power of ten. -/
def exactDecimal (pattern : Nat) : Decimal :=
  let (significand, exponent) := format.significand pattern
  let places := (-exponent).toNat
  ⟨significand * .pow 2 exponent.toNat * .pow 5 places, -places⟩

/-- Where the decimal point stands in the digits of a positive fraction. -/
def pointOf (numerator denominator : Nat) : Int :=
  let estimate : Int := Decimal.length numerator - Decimal.length denominator
  if numerator * .pow 10 (-estimate).toNat < denominator * .pow 10 estimate.toNat then estimate
  else estimate + 1

/-- Among the decimals with `count` digits that read back as a pattern, the nearest to its
magnitude. Only the two neighbours of the magnitude can be that decimal. -/
def nearestDecimal? (tie : TieRule) (pattern count : Nat) : Option Decimal :=
  let (numerator, denominator) := format.fraction pattern
  let exponent := pointOf numerator denominator - count
  let scaled := numerator * .pow 10 (-exponent).toNat
  let unit := denominator * .pow 10 exponent.toNat
  let below : Decimal := ⟨scaled / unit, exponent⟩
  let above : Decimal := ⟨scaled / unit + 1, exponent⟩
  let twice := 2 * (scaled % unit)
  let preferAbove :=
    unit < twice || (twice = unit && (tie = .up || below.digits % 2 = 1))
  let candidates := if preferAbove then [above, below] else [below, above]
  candidates.find? fun decimal => decimal.toBinary format = pattern

/-- The decimal with the fewest digits that reads back as a positive finite pattern, and of
those the nearest to its magnitude. If no number of digits is enough, every digit is given. -/
def shortestDecimal (tie : TieRule) (pattern : Nat) : Decimal :=
  ((List.range' 1 (format.precision / 3 + 2)).findSome? (format.nearestDecimal? tie pattern)).getD
    (format.exactDecimal pattern)

end BinaryFormat

end DbClient.Number
