/-! Whole numbers as text: the decimal digits of a number, and the reading of a signed number
that has to fit between two bounds. -/

namespace DbClient.Number

/-- The decimal digits of a natural number, without leading zeros. -/
def natText (n : Nat) : List Char :=
  Nat.toDigits 10 n

/-- The number that decimal digits denote. -/
def natOfDigits (digits : List Char) : Nat :=
  Nat.ofDigitChars 10 digits 0

theorem natOfDigits_natText (n : Nat) : natOfDigits (natText n) = n :=
  Nat.ofDigitChars_toDigits (by decide) (by decide)

/-- The decimal digits of a natural number, with zeros before them up to a width. -/
def paddedText (width n : Nat) : List Char :=
  List.replicate (width - (natText n).length) '0' ++ natText n

/-- The decimal digits of an integer behind its minus sign, if it is negative. -/
def intText (n : Int) : List Char :=
  if n < 0 then '-' :: natText n.natAbs else natText n.natAbs

def digitValue? (c : Char) : Option Nat :=
  if c.isDigit then some (c.toNat - '0'.toNat) else none

/-- Why a text is not a whole number within bounds. -/
inductive IntegerFault where
  | empty
  | invalidDigit
  | tooLarge
  | tooSmall
  deriving DecidableEq, Repr

def IntegerFault.message : IntegerFault → String
  | empty => "cannot parse integer from empty string"
  | invalidDigit => "invalid digit found in string"
  | tooLarge => "number too large to fit in target type"
  | tooSmall => "number too small to fit in target type"

/-- Reads digits one by one after a value `read` that stands before them, away from zero. The
first character that is no digit or leaves the bounds decides the fault. -/
def readDigits (low high : Int) (negative : Bool) : Int → List Char → Except IntegerFault Int
  | read, [] => .ok read
  | read, c :: rest =>
    match digitValue? c with
    | none => .error .invalidDigit
    | some d =>
      if negative then
        if 10 * read - d < low then .error .tooSmall
        else readDigits low high negative (10 * read - d) rest
      else
        if 10 * read + d > high then .error .tooLarge
        else readDigits low high negative (10 * read + d) rest

/-- Reads an optional sign and at least one digit, as a number between two bounds. -/
def readInteger (low high : Int) : List Char → Except IntegerFault Int
  | [] => .error .empty
  | ['+'] | ['-'] => .error .invalidDigit
  | '+' :: digits => readDigits low high false 0 digits
  | '-' :: digits => readDigits low high true 0 digits
  | digits => readDigits low high false 0 digits

def readInt32 (text : List Char) : Except IntegerFault Int32 :=
  (readInteger Int32.minValue.toInt Int32.maxValue.toInt text).map Int32.ofInt

def readInt64 (text : List Char) : Except IntegerFault Int64 :=
  (readInteger Int64.minValue.toInt Int64.maxValue.toInt text).map Int64.ofInt

end DbClient.Number
