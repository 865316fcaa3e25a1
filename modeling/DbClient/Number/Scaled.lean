import DbClient.Number.FloatText

/-! Decimal numbers given by an unscaled whole number and a scale: the value is the unscaled
number divided by ten to the power of the scale. The text shows both exactly. -/

namespace DbClient.Number

/-- The greatest scale that is written without an exponent. -/
def greatestPlainScale : Nat := 38

/-- The text of a magnitude: as many places as the scale says, with at least one digit before
the point; for great scales the unscaled digits and an exponent. -/
def scaledMagnitudeText (unscaled scale : Nat) : List Char :=
  if greatestPlainScale < scale then natText unscaled ++ 'E' :: '-' :: natText scale
  else if scale = 0 then natText unscaled
  else
    let digits := paddedText (scale + 1) unscaled
    let whole := digits.length - scale
    digits.take whole ++ '.' :: digits.drop whole

def scaledText (unscaled : Int) (scale : Nat) : List Char :=
  if unscaled < 0 then '-' :: scaledMagnitudeText unscaled.natAbs scale
  else scaledMagnitudeText unscaled.natAbs scale

/-- The quotient of the nearest floating-point numbers to the unscaled number and to the power
of ten. -/
def scaledFloat (unscaled : Int) (scale : Nat) : Float :=
  floatOfInt unscaled / floatPowerOfTen scale

end DbClient.Number
