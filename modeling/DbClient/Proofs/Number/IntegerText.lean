import DbClient.Proofs.Fault
import DbClient.Proofs.Number.Digits
import DbClient.Text.Blank

/-! The text of whole numbers. Main statements: `readInteger_eq_ok_iff`, by which exactly the texts
of numbers between the bounds are read, and `isIntegerText_intText`, by which numbers are written as
such texts. -/

namespace DbClient.Number

/-- A magnitude with a sign. -/
def withSign (negative : Bool) (magnitude : Nat) : Int :=
  if negative then -magnitude else magnitude

/-- Digits that are read do not make what stands before them smaller. -/
theorem le_ofDigitChars (digits : List Char) (read : Nat) :
    read ≤ Nat.ofDigitChars 10 digits read := by
  induction digits generalizing read with
  | nil => exact Nat.le_refl read
  | cons c rest ih =>
      rw [Nat.ofDigitChars_cons]
      exact Nat.le_trans (by omega) (ih _)

/-- Whether a number lies within the bound on its side of zero, which is all that is checked. -/
def InReach (low high : Int) (negative : Bool) (n : Int) : Prop :=
  if negative then low ≤ n else n ≤ high

/-- Further digits lead away from zero. -/
theorem InReach.of_ofDigitChars {low high : Int} {negative : Bool} {digits : List Char} {read : Nat}
    (hReach : InReach low high negative (withSign negative (Nat.ofDigitChars 10 digits read))) :
    InReach low high negative (withSign negative read) := by
  have hRead := le_ofDigitChars digits read
  cases negative with
  | true =>
      simp only [InReach, withSign, if_true] at hReach ⊢
      omega
  | false =>
      simp only [InReach, withSign, Bool.false_eq_true, if_false] at hReach ⊢
      omega

theorem ite_error_eq_ok_iff {ε α : Type} {p : Prop} [Decidable p] {fault : ε}
    {result : Except ε α} {value : α} :
    (if p then .error fault else result) = .ok value ↔ ¬ p ∧ result = .ok value := by
  by_cases hp : p <;> simp [hp]

/-- Reading goes on behind a digit that leads to a number in reach. -/
theorem readDigits_cons_eq_ok_iff {low high n : Int} {negative : Bool} {c : Char}
    {rest : List Char} {read : Nat} :
    readDigits low high negative (withSign negative read) (c :: rest) = .ok n ↔
      c.isDigit = true ∧
      InReach low high negative (withSign negative (10 * read + (c.toNat - '0'.toNat))) ∧
      readDigits low high negative (withSign negative (10 * read + (c.toNat - '0'.toNat))) rest =
        .ok n := by
  cases hc : c.isDigit with
  | false => simp [readDigits, digitValue?, hc]
  | true =>
      have hDigit : digitValue? c = some (c.toNat - '0'.toNat) := if_pos hc
      generalize c.toNat - '0'.toNat = d at hDigit ⊢
      cases negative with
      | true =>
          have hNext : 10 * -(read : Int) - d = -((10 * read + d : Nat) : Int) := by omega
          simp only [readDigits, hDigit, withSign, InReach, if_true, hNext, ite_error_eq_ok_iff,
            Int.not_lt, true_and]
      | false =>
          have hNext : 10 * (read : Int) + d = ((10 * read + d : Nat) : Int) := by omega
          simp only [readDigits, hDigit, withSign, InReach, Bool.false_eq_true, if_false, hNext,
            ite_error_eq_ok_iff, gt_iff_lt, Int.not_lt, true_and]

/-- Exactly digits that lead to a number in reach are read, and as this number. -/
theorem readDigits_eq_ok_iff {low high n : Int} {negative : Bool} {digits : List Char}
    {read : Nat} :
    readDigits low high negative (withSign negative read) digits = .ok n ↔
      AreDigits digits ∧ n = withSign negative (Nat.ofDigitChars 10 digits read) ∧
        (digits ≠ [] → InReach low high negative n) := by
  induction digits generalizing read with
  | nil =>
      constructor
      · intro hRead
        cases hRead
        exact ⟨fun _ hc => absurd hc List.not_mem_nil, rfl, fun hSome => absurd rfl hSome⟩
      · rintro ⟨-, rfl, -⟩
        rfl
  | cons c rest ih =>
      rw [readDigits_cons_eq_ok_iff, ih, Nat.ofDigitChars_cons]
      constructor
      · rintro ⟨hc, hNext, hRest, rfl, hReach⟩
        refine ⟨List.forall_mem_cons.mpr ⟨hc, hRest⟩, rfl, fun _ => ?_⟩
        cases rest with
        | nil => exact hNext
        | cons d others => exact hReach (List.cons_ne_nil d others)
      · rintro ⟨hDigits, rfl, hReach⟩
        obtain ⟨hc, hRest⟩ := List.forall_mem_cons.mp hDigits
        have hReach := hReach (List.cons_ne_nil c rest)
        exact ⟨hc, hReach.of_ofDigitChars, hRest, rfl, fun _ => hReach⟩

/-- Digits are read in full if the number that they lead to is between the bounds. -/
theorem readDigits_eq_ok {low high : Int} {negative : Bool} {digits : List Char}
    (hDigits : AreDigits digits) {read : Nat}
    (hLow : low ≤ withSign negative (Nat.ofDigitChars 10 digits read))
    (hHigh : withSign negative (Nat.ofDigitChars 10 digits read) ≤ high) :
    readDigits low high negative (withSign negative read) digits =
      .ok (withSign negative (Nat.ofDigitChars 10 digits read)) := by
  refine readDigits_eq_ok_iff.mpr ⟨hDigits, rfl, fun _ => ?_⟩
  cases negative with
  | true => exact hLow
  | false => exact hHigh

/-- Digits are read as nothing but the number that they lead to. -/
theorem eq_of_readDigits {low high n : Int} {negative : Bool} {digits : List Char} {read : Nat}
    (hRead : readDigits low high negative (withSign negative read) digits = .ok n) :
    n = withSign negative (Nat.ofDigitChars 10 digits read) :=
  (readDigits_eq_ok_iff.mp hRead).2.1

/-- An optional sign, and whether it makes a number negative. -/
inductive IsSign : List Char → Bool → Prop where
  | none : IsSign [] false
  | plus : IsSign ['+'] false
  | minus : IsSign ['-'] true

/-- An optional sign and at least one digit, and the number that they denote. -/
inductive IsIntegerText : List Char → Int → Prop where
  | signed {sign digits : List Char} {negative : Bool} (hSign : IsSign sign negative)
      (hDigits : AreDigits digits) (hSome : digits ≠ []) :
      IsIntegerText (sign ++ digits) (withSign negative (natOfDigits digits))

/-- Digits are read without a sign. -/
theorem readInteger_digits (low high : Int) {digits : List Char} (hDigits : AreDigits digits)
    (hSome : digits ≠ []) :
    readInteger low high digits = readDigits low high false (withSign false 0) digits := by
  cases digits with
  | nil => exact absurd rfl hSome
  | cons c rest =>
      have hc := hDigits c List.mem_cons_self
      have hPlus : c ≠ '+' := by
        rintro rfl
        exact absurd hc (by decide)
      have hMinus : c ≠ '-' := by
        rintro rfl
        exact absurd hc (by decide)
      simp [readInteger, hPlus, hMinus, withSign]

theorem readInteger_minus (low high : Int) {digits : List Char} (hSome : digits ≠ []) :
    readInteger low high ('-' :: digits) =
      readDigits low high true (withSign true 0) digits := by
  cases digits with
  | nil => exact absurd rfl hSome
  | cons c rest => rfl

/-- What is read as a number is a sign and digits that are. -/
theorem exists_of_readInteger {low high n : Int} {text : List Char}
    (hRead : readInteger low high text = .ok n) : ∃ sign negative digits,
      IsSign sign negative ∧ digits ≠ [] ∧ text = sign ++ digits ∧
        readDigits low high negative (withSign negative 0) digits = .ok n := by
  rw [readInteger.eq_def] at hRead
  split at hRead
  · cases hRead
  · cases hRead
  · cases hRead
  · next digits hSome => exact ⟨_, _, digits, .plus, hSome, rfl, hRead⟩
  · next digits hSome => exact ⟨_, _, digits, .minus, hSome, rfl, hRead⟩
  · next hSome _ _ _ _ => exact ⟨_, _, text, .none, hSome, rfl, hRead⟩

/-- Digits are read with the sign in front of them. -/
theorem readInteger_of_isSign (low high : Int) {sign digits : List Char} {negative : Bool}
    (hSign : IsSign sign negative) (hDigits : AreDigits digits) (hSome : digits ≠ []) :
    readInteger low high (sign ++ digits) =
      readDigits low high negative (withSign negative 0) digits := by
  cases hSign with
  | none => exact readInteger_digits low high hDigits hSome
  | plus =>
      cases digits with
      | nil => exact absurd rfl hSome
      | cons c rest => rfl
  | minus => exact readInteger_minus low high hSome

/-- The text of a number is read if the number is in the range. -/
theorem readInteger_of_isIntegerText {low high n : Int} {text : List Char}
    (hText : IsIntegerText text n) (hLow : low ≤ n) (hHigh : n ≤ high) :
    readInteger low high text = .ok n := by
  cases hText with
  | signed hSign hDigits hSome =>
      rw [readInteger_of_isSign low high hSign hDigits hSome]
      exact readDigits_eq_ok hDigits hLow hHigh

/-- Exactly the texts of numbers between two bounds around zero are read. -/
theorem readInteger_eq_ok_iff {low high n : Int} (hLow : low ≤ 0) (hHigh : 0 ≤ high)
    {text : List Char} :
    readInteger low high text = .ok n ↔ IsIntegerText text n ∧ low ≤ n ∧ n ≤ high := by
  constructor
  · intro hRead
    obtain ⟨sign, negative, digits, hSign, hSome, rfl, hRest⟩ := exists_of_readInteger hRead
    obtain ⟨hDigits, rfl, hReach⟩ := readDigits_eq_ok_iff.mp hRest
    refine ⟨.signed hSign hDigits hSome, ?_⟩
    have hReach := hReach hSome
    cases negative with
    | true =>
        simp only [InReach, withSign, if_true] at hReach ⊢
        omega
    | false =>
        simp only [InReach, withSign, Bool.false_eq_true, if_false] at hReach ⊢
        omega
  · rintro ⟨hText, hFrom, hTo⟩
    exact readInteger_of_isIntegerText hText hFrom hTo

theorem isIntegerText_natText {sign : List Char} {negative : Bool} (hSign : IsSign sign negative)
    (magnitude : Nat) :
    IsIntegerText (sign ++ natText magnitude) (withSign negative magnitude) := by
  have hText := IsIntegerText.signed hSign (areDigits_natText magnitude) Nat.toDigits_ne_nil
  rwa [natOfDigits_natText] at hText

theorem intText_of_neg {n : Int} (hn : n < 0) : intText n = '-' :: natText n.natAbs := by
  rw [intText, if_pos hn]

theorem intText_of_nonneg {n : Int} (hn : 0 ≤ n) : intText n = natText n.natAbs := by
  rw [intText, if_neg (Int.not_lt.mpr hn)]

/-- The text that is written for a number is one of its texts. -/
theorem isIntegerText_intText (n : Int) : IsIntegerText (intText n) n := by
  rcases Int.lt_or_le n 0 with hNegative | hPos
  · have hValue : withSign true n.natAbs = n := by
      rw [withSign, if_pos rfl]
      omega
    have hText := isIntegerText_natText .minus n.natAbs
    rwa [hValue, List.singleton_append, ← intText_of_neg hNegative] at hText
  · have hValue : withSign false n.natAbs = n := Int.natAbs_of_nonneg hPos
    have hText := isIntegerText_natText .none n.natAbs
    rwa [hValue, List.nil_append, ← intText_of_nonneg hPos] at hText

/-- Words are read from exactly the texts of the numbers that they stand for. -/
theorem map_readInteger_eq_ok_iff {α : Type} {ofInt : Int → α} {toInt : α → Int} {low high : Int}
    (hLow : low ≤ 0) (hHigh : 0 ≤ high) (hOfInt : ∀ n, low ≤ n → n ≤ high → toInt (ofInt n) = n)
    (hToInt : ∀ word, low ≤ toInt word ∧ toInt word ≤ high ∧ ofInt (toInt word) = word)
    {text : List Char} {word : α} :
    (readInteger low high text).map ofInt = .ok word ↔ IsIntegerText text (toInt word) := by
  rw [map_eq_ok_iff]
  constructor
  · rintro ⟨n, hRead, rfl⟩
    obtain ⟨hText, hFrom, hTo⟩ := (readInteger_eq_ok_iff hLow hHigh).mp hRead
    rwa [hOfInt n hFrom hTo]
  · intro hText
    obtain ⟨hFrom, hTo, hWord⟩ := hToInt word
    exact ⟨toInt word, readInteger_of_isIntegerText hText hFrom hTo, hWord⟩

/-- A word of 32 bits is read exactly from the texts of its number. -/
theorem readInt32_eq_ok_iff {text : List Char} {word : Int32} :
    readInt32 text = .ok word ↔ IsIntegerText text word.toInt :=
  map_readInteger_eq_ok_iff (by decide) (by decide)
    (fun _ hFrom hTo => Int32.toInt_ofInt_of_le hFrom (Int.lt_of_le_of_lt hTo (by decide)))
    fun word => ⟨word.minValue_le_toInt, word.toInt_le, word.ofInt_toInt⟩

/-- A word of 64 bits is read exactly from the texts of its number. -/
theorem readInt64_eq_ok_iff {text : List Char} {word : Int64} :
    readInt64 text = .ok word ↔ IsIntegerText text word.toInt :=
  map_readInteger_eq_ok_iff (by decide) (by decide)
    (fun _ hFrom hTo => Int64.toInt_ofInt_of_le hFrom (Int.lt_of_le_of_lt hTo (by decide)))
    fun word => ⟨word.minValue_le_toInt, word.toInt_le, word.ofInt_toInt⟩

/-- There are no blanks in the text of a number. -/
theorem isBlank_of_mem_intText {n : Int} {c : Char} (hc : c ∈ intText n) :
    Text.isBlank c = false := by
  have hDigits : ∀ d ∈ natText n.natAbs, Text.isBlank d = false :=
    fun d hd => Text.isBlank_of_isDigit (areDigits_natText n.natAbs d hd)
  unfold intText at hc
  split at hc
  · rcases List.mem_cons.mp hc with rfl | hc
    · decide
    · exact hDigits c hc
  · exact hDigits c hc

end DbClient.Number
