/-! Blank characters and trimming. A character is blank when it has the Unicode property
White_Space; every reader of this library that ignores white space uses this class. -/

namespace DbClient.Text

/-- The characters with the Unicode property White_Space. -/
def isBlank (c : Char) : Bool :=
  (9 ≤ c.toNat && c.toNat ≤ 13) || c.toNat = 0x20 || c.toNat = 0x85 || c.toNat = 0xa0 ||
    c.toNat = 0x1680 || (0x2000 ≤ c.toNat && c.toNat ≤ 0x200a) || c.toNat = 0x2028 ||
    c.toNat = 0x2029 || c.toNat = 0x202f || c.toNat = 0x205f || c.toNat = 0x3000

theorem isBlank_of_isDigit {c : Char} (h : c.isDigit = true) : isBlank c = false := by
  obtain ⟨hLow, hHigh⟩ : 48 ≤ c.toNat ∧ c.toNat ≤ 57 := Char.isDigit_iff_toNat.mp h
  simp only [isBlank, Bool.or_eq_false_iff, Bool.and_eq_false_iff, decide_eq_false_iff_not]
  omega

def trimStart (text : List Char) : List Char :=
  text.dropWhile isBlank

def trimEnd (text : List Char) : List Char :=
  (text.reverse.dropWhile isBlank).reverse

def trim (text : List Char) : List Char :=
  trimEnd (trimStart text)

theorem trimStart_cons {c : Char} (hc : isBlank c = false) (rest : List Char) :
    trimStart (c :: rest) = c :: rest := by
  rw [trimStart, List.dropWhile_cons_of_neg (by simp [hc])]

/-- Blanks are taken off up to a character that is none. -/
theorem trimStart_append_cons {c : Char} (hc : isBlank c = false) (before rest : List Char) :
    trimStart (before ++ c :: rest) = trimStart before ++ c :: rest := by
  induction before with
  | nil => exact trimStart_cons hc rest
  | cons head before ih =>
      by_cases hHead : isBlank head = true
      · rw [trimStart, trimStart, List.cons_append, List.dropWhile_cons_of_pos hHead,
          List.dropWhile_cons_of_pos hHead]
        exact ih
      · have hHead := Bool.eq_false_iff.mpr hHead
        rw [List.cons_append, trimStart_cons hHead, trimStart_cons hHead, List.cons_append]

/-- Blanks are taken off from behind up to a character that is none. -/
theorem trimEnd_append_cons {c : Char} (hc : isBlank c = false) (before after : List Char) :
    trimEnd (before ++ c :: after) = before ++ c :: trimEnd after := by
  have hStart := trimStart_append_cons hc after.reverse before.reverse
  rw [trimStart, trimStart] at hStart
  simp [trimEnd, hStart]

theorem isBlank_of_trimStart {text rest : List Char} {c : Char} (hText : trimStart text = c :: rest) :
    isBlank c = false := by
  have hHead := List.head?_dropWhile_not isBlank text
  rw [← trimStart, hText] at hHead
  exact hHead

theorem trimStart_trimStart (text : List Char) : trimStart (trimStart text) = trimStart text := by
  cases hText : trimStart text with
  | nil => rfl
  | cons c rest => exact trimStart_cons (isBlank_of_trimStart hText) rest

theorem trim_trimStart (text : List Char) : trim (trimStart text) = trim text := by
  rw [trim, trim, trimStart_trimStart]

theorem trimEnd_trimEnd (text : List Char) : trimEnd (trimEnd text) = trimEnd text := by
  have hStart := trimStart_trimStart text.reverse
  rw [trimStart, trimStart] at hStart
  rw [trimEnd, trimEnd, List.reverse_reverse, hStart]

/-- What is trimmed has no blanks around it. -/
theorem trim_trim (text : List Char) : trim (trim text) = trim text := by
  unfold trim
  cases hText : trimStart text with
  | nil => rfl
  | cons c rest =>
      have hc := isBlank_of_trimStart hText
      have hEnd : trimEnd (c :: rest) = c :: trimEnd rest := trimEnd_append_cons hc [] rest
      have hAgain : trimEnd (c :: trimEnd rest) = c :: trimEnd (trimEnd rest) :=
        trimEnd_append_cons hc [] (trimEnd rest)
      rw [hEnd, trimStart_cons hc, hAgain, trimEnd_trimEnd]

theorem trimEnd_prefix (text : List Char) : trimEnd text <+: text := by
  have hSuffix := List.dropWhile_suffix isBlank (l := text.reverse)
  exact List.reverse_suffix.mp (by simpa [trimEnd] using hSuffix)

/-- Only blanks around a text without blanks are trimmed off, whatever surrounds it. -/
theorem trim_append_append {body : List Char} (hSome : body ≠ [])
    (hBody : ∀ c ∈ body, isBlank c = false) (before after : List Char) :
    trim (before ++ (body ++ after)) = trimStart before ++ (body ++ trimEnd after) := by
  have hStart : trimStart (before ++ (body ++ after)) = trimStart before ++ (body ++ after) := by
    obtain ⟨first, rest, rfl⟩ := List.exists_cons_of_ne_nil hSome
    exact trimStart_append_cons (hBody first List.mem_cons_self) before (rest ++ after)
  have hLast := hBody (body.getLast hSome) (List.getLast_mem hSome)
  have hSplit (rest : List Char) : body ++ rest = body.dropLast ++ body.getLast hSome :: rest := by
    conv => lhs; rw [← List.dropLast_concat_getLast hSome, List.append_assoc, List.singleton_append]
  rw [trim, hStart, hSplit, hSplit, ← List.append_assoc, trimEnd_append_cons hLast,
    List.append_assoc]

/-- No character but blanks is taken off. -/
theorem count_trimStart {c : Char} (hc : isBlank c = false) (text : List Char) :
    (trimStart text).count c = text.count c := by
  induction text with
  | nil => rfl
  | cons head rest ih =>
      by_cases hHead : isBlank head = true
      · have hNe : head ≠ c := fun hSame => by simp [hSame, hc] at hHead
        rw [trimStart, List.dropWhile_cons_of_pos hHead, List.count_cons_of_ne hNe]
        exact ih
      · rw [trimStart_cons (Bool.eq_false_iff.mpr hHead)]

/-- Nothing but blanks is trimmed off. -/
theorem count_trim {c : Char} (hc : isBlank c = false) (text : List Char) :
    (trim text).count c = text.count c := by
  rw [trim, trimEnd, List.count_reverse]
  calc ((trimStart text).reverse.dropWhile isBlank).count c
      = (trimStart text).reverse.count c := count_trimStart hc _
    _ = text.count c := by rw [List.count_reverse, count_trimStart hc]

theorem trimStart_of_plain {text : List Char} (hText : ∀ c ∈ text, isBlank c = false) :
    trimStart text = text := by
  cases text with
  | nil => rfl
  | cons c rest => exact trimStart_cons (hText c List.mem_cons_self) rest

theorem trim_of_plain {text : List Char} (hText : ∀ c ∈ text, isBlank c = false) :
    trim text = text := by
  have hReverse : ∀ c ∈ text.reverse, isBlank c = false :=
    fun c hc => hText c (List.mem_reverse.mp hc)
  have hEnd : text.reverse.dropWhile isBlank = text.reverse := trimStart_of_plain hReverse
  rw [trim, trimStart_of_plain hText, trimEnd, hEnd, List.reverse_reverse]

def isAllBlank (text : List Char) : Bool :=
  text.all isBlank

theorem trimStart_append {blanks : List Char} (hBlanks : isAllBlank blanks = true)
    (rest : List Char) : trimStart (blanks ++ rest) = trimStart rest := by
  rw [isAllBlank, List.all_eq_true] at hBlanks
  exact List.dropWhile_append_of_pos hBlanks

theorem trimEnd_append {blanks : List Char} (hBlanks : isAllBlank blanks = true)
    (text : List Char) : trimEnd (text ++ blanks) = trimEnd text := by
  have hReverse : isAllBlank blanks.reverse = true := List.all_reverse.trans hBlanks
  have hStart := trimStart_append hReverse text.reverse
  rw [trimStart, trimStart] at hStart
  rw [trimEnd, trimEnd, List.reverse_append, hStart]

/-- Text without blanks at its ends. -/
structure IsTrimmed (text : List Char) : Prop where
  head : ∀ c ∈ text.head?, isBlank c = false
  last : ∀ c ∈ text.getLast?, isBlank c = false

theorem isTrimmed_iff {text : List Char} :
    IsTrimmed text ↔ (text.head?.all fun c => !isBlank c) = true ∧
      (text.getLast?.all fun c => !isBlank c) = true := by
  simp only [Option.all_eq_true, Bool.not_eq_true']
  exact ⟨fun hText => ⟨hText.head, hText.last⟩, fun ⟨hHead, hLast⟩ => ⟨hHead, hLast⟩⟩

instance : DecidablePred IsTrimmed := fun _ => decidable_of_iff _ isTrimmed_iff.symm

theorem IsTrimmed.trimEnd_eq {text : List Char} (hText : IsTrimmed text) :
    trimEnd text = text := by
  rcases List.eq_nil_or_concat text with rfl | ⟨front, c, rfl⟩
  · rfl
  · rw [List.concat_eq_append] at hText ⊢
    have hc : isBlank c = false := hText.last c (by simp)
    exact trimEnd_append_cons hc front []

/-- Blanks around a trimmed text are all that is trimmed off. -/
theorem IsTrimmed.trim_append_append {text before after : List Char} (hText : IsTrimmed text)
    (hBefore : isAllBlank before = true) (hAfter : isAllBlank after = true) :
    trim (before ++ (text ++ after)) = text := by
  rw [trim, trimStart_append hBefore]
  cases text with
  | nil =>
      have hNone : trimStart after = [] := by
        rw [← List.append_nil after, trimStart_append hAfter]
        rfl
      rw [List.nil_append, hNone]
      rfl
  | cons c rest =>
      rw [List.cons_append, trimStart_cons (hText.head c rfl), ← List.cons_append,
        trimEnd_append hAfter, hText.trimEnd_eq]

def isBlankText (text : String) : Bool :=
  isAllBlank text.toList

end DbClient.Text
