/-! Comparison of names without regard to the case of ASCII letters. Letters outside ASCII
are compared as they are. -/

namespace DbClient.Text

/-- Text with its ASCII capitals replaced by small letters. -/
def foldCase (text : List Char) : List Char :=
  text.map Char.toLower

/-- Whether two texts differ in the case of ASCII letters only. -/
def sameName (left right : List Char) : Bool :=
  foldCase left == foldCase right

theorem sameName_iff {left right : List Char} :
    sameName left right = true ↔ foldCase left = foldCase right := by
  simp [sameName]

theorem sameName_refl (text : List Char) : sameName text text = true := by
  simp [sameName]

theorem sameName_symm {left right : List Char} (h : sameName left right = true) :
    sameName right left = true := by
  rw [sameName_iff] at *
  exact h.symm

theorem sameName_trans {first second third : List Char} (h : sameName first second = true)
    (h' : sameName second third = true) : sameName first third = true := by
  rw [sameName_iff] at *
  exact h.trans h'

theorem sameName_cons_of_ne {c d : Char} (h : c.toLower ≠ d.toLower) (left right : List Char) :
    sameName (c :: left) (d :: right) = false := by
  simp [sameName, foldCase, h]

theorem isUpper_iff {c : Char} : c.isUpper = true ↔ 65 ≤ c.toNat ∧ c.toNat ≤ 90 :=
  decide_eq_true_iff

/-- A capital is 32 below its small letter. -/
theorem toNat_toLower (c : Char) :
    c.toLower.toNat = if c.isUpper then c.toNat + 32 else c.toNat := by
  by_cases hUpper : c.isUpper = true
  · have hBounds := isUpper_iff.mp hUpper
    have hSum : (c.val + 32).toNat = (c.toNat + 32) % 2 ^ 32 := UInt32.toNat_add c.val 32
    have hLower : c.toLower.toNat = (c.val + 32).toNat :=
      congrArg Char.toNat (dif_pos (of_decide_eq_true hUpper))
    rw [if_pos hUpper, hLower, hSum, Nat.mod_eq_of_lt (by omega)]
  · rw [if_neg hUpper]
    exact congrArg Char.toNat (dif_neg fun hCapital => hUpper (decide_eq_true hCapital))

theorem toLower_of_not_isUpper {c : Char} (hc : c.isUpper = false) : c.toLower = c := by
  rw [← Char.toNat_inj, toNat_toLower, if_neg (Bool.eq_false_iff.mp hc)]

theorem not_isUpper_of_isDigit {c : Char} (hc : c.isDigit = true) : c.isUpper = false := by
  have hBounds : 48 ≤ c.toNat ∧ c.toNat ≤ 57 := Char.isDigit_iff_toNat.mp hc
  rw [Bool.eq_false_iff, ne_eq, isUpper_iff]
  omega

/-- What is no capital letter is written only where the name has it. -/
theorem mem_of_sameName {text name : List Char} (hSame : sameName text name = true) {c : Char}
    (hc : c ∈ text) (hUpper : c.isUpper = false) : c ∈ foldCase name := by
  rw [← sameName_iff.mp hSame, ← toLower_of_not_isUpper hUpper]
  exact List.mem_map_of_mem hc

/-- The rest of a text after a leading name, whose case does not matter. -/
def dropName? (name text : List Char) : Option (List Char) :=
  if sameName (text.take name.length) name then some (text.drop name.length) else none

theorem length_of_sameName {left right : List Char} (hSame : sameName left right = true) :
    left.length = right.length := by
  have hLength := congrArg List.length (sameName_iff.mp hSame)
  simpa [foldCase] using hLength

/-- A name is dropped exactly if it stands in front, in any case. -/
theorem dropName?_eq_some_iff {name text rest : List Char} :
    dropName? name text = some rest ↔ ∃ head, sameName head name = true ∧ head ++ rest = text := by
  constructor
  · intro hDrop
    rw [dropName?] at hDrop
    split at hDrop
    · cases hDrop
      exact ⟨_, ‹_›, List.take_append_drop _ _⟩
    · cases hDrop
  · rintro ⟨head, hSame, rfl⟩
    rw [dropName?, ← length_of_sameName hSame, List.take_left, if_pos hSame, List.drop_left]

theorem dropName?_cons_of_ne {c d : Char} (h : c.toLower ≠ d.toLower) (name text : List Char) :
    dropName? (d :: name) (c :: text) = none := by
  simp [dropName?, sameName_cons_of_ne h]

end DbClient.Text
