/-! Binary floating-point formats: the magnitude that a bit pattern stands for, and the
rounding of a fraction to the nearest pattern. A format is given by its number of significant
bits and the width of its exponent field. Patterns here are without the sign bit, so that
their order as numbers is the order of the magnitudes. -/

namespace DbClient.Number

structure BinaryFormat where
  /-- The number of significant bits, the implicit one included. -/
  precision : Nat
  /-- The width of the exponent field. -/
  exponentBits : Nat
  deriving DecidableEq, Repr

namespace BinaryFormat

def binary64 : BinaryFormat := ⟨53, 11⟩

def binary32 : BinaryFormat := ⟨24, 8⟩

variable (format : BinaryFormat)

/-- The patterns between two powers of two, and the weight of the exponent field. -/
def binade : Nat := .pow 2 (format.precision - 1)

/-- The pattern of infinity; patterns above it are no numbers. -/
def infinity : Nat := (.pow 2 format.exponentBits - 1) * format.binade

def signWeight : Nat := .pow 2 format.exponentBits * format.binade

/-- The exponent of the least positive magnitude, which is a power of two. -/
def leastExponent : Int :=
  3 - Nat.pow 2 (format.exponentBits - 1) - format.precision

/-- The significand and the exponent of a finite pattern: its magnitude is
`significand * 2 ^ exponent`. -/
def significand (pattern : Nat) : Nat × Int :=
  let field := pattern / format.binade
  let fraction := pattern % format.binade
  if field = 0 then (fraction, format.leastExponent)
  else (fraction + format.binade, format.leastExponent + (field - 1 : Nat))

/-- A positive power of two with an integer exponent, as a numerator and a denominator. -/
def powerOfTwo (exponent : Int) : Nat × Nat :=
  (.pow 2 exponent.toNat, .pow 2 (-exponent).toNat)

/-- The magnitude of a finite pattern, as a numerator and a denominator. -/
def fraction (pattern : Nat) : Nat × Nat :=
  let (significand, exponent) := format.significand pattern
  let (up, down) := powerOfTwo exponent
  (significand * up, down)

/-- A quotient rounded to the nearest whole number, a half to the even one. -/
def nearestEven (numerator denominator : Nat) : Nat :=
  let quotient := numerator / denominator
  let twice := 2 * (numerator % denominator)
  if twice < denominator then quotient
  else if denominator < twice then quotient + 1
  else quotient + quotient % 2

/-- The exponent that gives a positive fraction as many significant bits as the format has,
or fewer if the exponent would fall below the least one. -/
def exponentFor (numerator denominator : Nat) : Int :=
  let estimate : Int := numerator.log2 - denominator.log2 - (format.precision - 1 : Nat)
  let (up, down) := powerOfTwo estimate
  let exponent :=
    if numerator * down < format.binade * (denominator * up) then estimate - 1 else estimate
  max exponent format.leastExponent

/-- The pattern nearest to a fraction, of two equally near ones the even one. Everything from
half a unit above the largest finite magnitude on is infinity. -/
def round (numerator denominator : Nat) : Nat :=
  if numerator = 0 then 0
  else
    let exponent := format.exponentFor numerator denominator
    let (up, down) := powerOfTwo exponent
    let significand := nearestEven (numerator * down) (denominator * up)
    min ((exponent - format.leastExponent).toNat * format.binade + significand) format.infinity

end BinaryFormat

end DbClient.Number
