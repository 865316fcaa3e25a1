import DbClient.Text.AsciiCase

/-! Text by its bytes. Main statement: `cutBytes?_eq_some_iff`, by which a text is cut where the
characters in front of the cut take the given number of bytes. -/

namespace DbClient.Text

def byteSize (text : List Char) : Nat :=
  text.foldl (fun size c => size + c.utf8Size) 0

/-- Cuts a text behind a number of bytes, if a character ends there. -/
def cutBytes? : Nat → List Char → Option (List Char × List Char)
  | 0, text => some ([], text)
  | _ + 1, [] => none
  | count + 1, c :: rest =>
    if c.utf8Size ≤ count + 1 then
      (cutBytes? (count + 1 - c.utf8Size) rest).map fun (front, back) => (c :: front, back)
    else none

theorem byteSize_cons (c : Char) (rest : List Char) :
    byteSize (c :: rest) = c.utf8Size + byteSize rest := by
  have hFold (size : Nat) : rest.foldl (fun size c => size + c.utf8Size) size =
      size + byteSize rest := by
    unfold byteSize
    induction rest generalizing size with
    | nil => rfl
    | cons head rest ih =>
        rw [List.foldl_cons, List.foldl_cons, ih, ih (0 + head.utf8Size)]
        omega
  rw [byteSize, List.foldl_cons, hFold, Nat.zero_add]

theorem byteSize_append (left right : List Char) :
    byteSize (left ++ right) = byteSize left + byteSize right := by
  induction left with
  | nil => simp [byteSize]
  | cons c rest ih => rw [List.cons_append, byteSize_cons, byteSize_cons, ih, Nat.add_assoc]

/-- Only the empty text has no bytes. -/
theorem byteSize_eq_zero_iff {text : List Char} : byteSize text = 0 ↔ text = [] := by
  cases text with
  | nil => simp [byteSize]
  | cons c rest =>
      have hPos := c.utf8Size_pos
      simp only [byteSize_cons, reduceCtorEq, iff_false]
      omega

theorem cutBytes?_zero (text : List Char) : cutBytes? 0 text = some ([], text) := by
  cases text <;> rfl

/-- A text is cut behind the characters that take the given number of bytes. -/
theorem cutBytes?_eq_some_iff {count : Nat} {text front back : List Char} :
    cutBytes? count text = some (front, back) ↔ byteSize front = count ∧ front ++ back = text := by
  induction text generalizing count front with
  | nil =>
      cases front with
      | nil => cases count <;> simp [cutBytes?, byteSize, eq_comm]
      | cons head front => cases count <;> simp [cutBytes?]
  | cons c rest ih =>
      cases count with
      | zero =>
          rw [cutBytes?_zero, byteSize_eq_zero_iff, Option.some_inj, Prod.mk.injEq, eq_comm]
          exact and_congr_right fun hFront => by rw [hFront, List.nil_append, eq_comm]
      | succ count =>
          constructor
          · intro hCut
            simp only [cutBytes?] at hCut
            split at hCut
            · obtain ⟨⟨head, tail⟩, hRest, hPair⟩ := Option.map_eq_some_iff.mp hCut
              cases hPair
              obtain ⟨hSize, hText⟩ := ih.mp hRest
              dsimp only at hSize hText ⊢
              rw [byteSize_cons, List.cons_append, hText]
              exact ⟨by omega, rfl⟩
            · cases hCut
          · rintro ⟨hSize, hText⟩
            cases front with
            | nil => cases hSize
            | cons head front =>
                cases hText
                rw [byteSize_cons] at hSize
                have hRest := ih.mpr ⟨(by omega : byteSize front = count + 1 - c.utf8Size), rfl⟩
                rw [cutBytes?, if_pos (by omega), hRest]
                rfl

theorem utf8Size_eq_one {c : Char} (hc : c.toNat < 128) : c.utf8Size = 1 := by
  rw [Char.utf8Size_eq_one_iff, UInt32.le_iff_toNat_le]
  exact Nat.le_of_lt_succ hc

/-- A text of ASCII has one byte for each character. -/
theorem byteSize_of_ascii {text : List Char} (hText : ∀ c ∈ text, c.toNat < 128) :
    byteSize text = text.length := by
  induction text with
  | nil => rfl
  | cons c rest ih =>
      obtain ⟨hc, hRest⟩ := List.forall_mem_cons.mp hText
      rw [byteSize_cons, utf8Size_eq_one hc, ih hRest, List.length_cons, Nat.add_comm]

/-- The case of a letter does not matter to its size. -/
theorem utf8Size_toLower (c : Char) : c.toLower.utf8Size = c.utf8Size := by
  by_cases hCapital : c.val ≥ 'A'.val ∧ c.val ≤ 'Z'.val
  · have hLow : 65 ≤ c.val.toNat := UInt32.le_iff_toNat_le.mp hCapital.1
    have hHigh : c.val.toNat ≤ 90 := UInt32.le_iff_toNat_le.mp hCapital.2
    have hLower : c.toLower.val = c.val + 32 := congrArg Char.val (dif_pos hCapital)
    have hShift : UInt32.toNat 32 = 32 := rfl
    have hValue : c.toLower.val.toNat = c.val.toNat + 32 := by
      rw [hLower, UInt32.toNat_add, hShift]
      omega
    have hSmall : c.toLower.toNat < 128 := by
      rw [Char.toNat, hValue]
      omega
    rw [utf8Size_eq_one hSmall, utf8Size_eq_one (Nat.lt_of_le_of_lt hHigh (by decide))]
  · have hOther : c.toLower = c := dif_neg hCapital
    rw [hOther]

/-- The case of letters does not change how many bytes they take. -/
theorem byteSize_of_sameName {left right : List Char} (hSame : sameName left right = true) :
    byteSize left = byteSize right := by
  have hFold (text : List Char) : byteSize (foldCase text) = byteSize text := by
    induction text with
    | nil => rfl
    | cons c rest ih =>
        have hFold : foldCase (c :: rest) = c.toLower :: foldCase rest := rfl
        rw [hFold, byteSize_cons, byteSize_cons, utf8Size_toLower, ih]
  rw [← hFold left, sameName_iff.mp hSame, hFold]

end DbClient.Text
