import DbClient.Number.Integer
import Mathlib.Algebra.Group.Nat.Defs
import Mathlib.Data.List.TakeWhile

/-! Decimal digits. Main statements: `takeWhile_digits` and `dropWhile_digits`, by which digits are
told from what follows them, and `natOfDigits_append`, by which those in front count for more. -/

namespace DbClient.Number

/-- Text made of decimal digits. -/
def AreDigits (text : List Char) : Prop :=
  ∀ c ∈ text, c.isDigit = true

/-- Text that does not go on with a decimal digit. -/
def EndsDigits (text : List Char) : Prop :=
  ∀ c rest, text = c :: rest → c.isDigit = false

theorem endsDigits_nil : EndsDigits [] := by
  intro c rest hText
  cases hText

theorem endsDigits_cons {c : Char} (hc : c.isDigit = false) (rest : List Char) :
    EndsDigits (c :: rest) := by
  intro head tail hText
  cases hText
  exact hc

theorem areDigits_append {left right : List Char} (hLeft : AreDigits left)
    (hRight : AreDigits right) : AreDigits (left ++ right) := by
  intro c hc
  exact (List.mem_append.mp hc).elim (hLeft c) (hRight c)

theorem areDigits_zeros (count : Nat) : AreDigits (List.replicate count '0') := by
  intro c hc
  rw [List.eq_of_mem_replicate hc]
  decide

theorem areDigits_natText (n : Nat) : AreDigits (natText n) :=
  fun _ hc => Nat.isDigit_of_mem_toDigits (by decide) (by decide) hc

theorem takeWhile_digits {digits rest : List Char} (hDigits : AreDigits digits)
    (hRest : EndsDigits rest) : (digits ++ rest).takeWhile Char.isDigit = digits := by
  rw [List.takeWhile_append_of_pos hDigits]
  cases rest with
  | nil => simp
  | cons c rest => simp [hRest c rest rfl]

theorem dropWhile_digits {digits rest : List Char} (hDigits : AreDigits digits)
    (hRest : EndsDigits rest) : (digits ++ rest).dropWhile Char.isDigit = rest := by
  rw [List.dropWhile_append_of_pos hDigits]
  cases rest with
  | nil => rfl
  | cons c rest => simp [hRest c rest rfl]

theorem natOfDigits_append (left right : List Char) :
    natOfDigits (left ++ right) = natOfDigits left * 10 ^ right.length + natOfDigits right := by
  rw [natOfDigits, Nat.ofDigitChars_append, Nat.ofDigitChars_eq_ofDigitChars_zero, Nat.mul_comm]
  rfl

theorem natOfDigits_zeros (count : Nat) : natOfDigits (List.replicate count '0') = 0 := by
  simp [natOfDigits]

theorem paddedText_ne_nil (width n : Nat) : paddedText width n ≠ [] :=
  List.append_ne_nil_of_right_ne_nil _ Nat.toDigits_ne_nil

theorem areDigits_paddedText (width n : Nat) : AreDigits (paddedText width n) :=
  areDigits_append (areDigits_zeros _) (areDigits_natText n)

/-- Zeros in front of a number do not change it. -/
theorem natOfDigits_paddedText (width n : Nat) : natOfDigits (paddedText width n) = n := by
  rw [paddedText, natOfDigits_append, natOfDigits_zeros, natOfDigits_natText, Nat.zero_mul,
    Nat.zero_add]

end DbClient.Number
