/-! Cutting text at a separator. -/

namespace DbClient.Text

/-- The pieces between the occurrences of a separator, one more than there are separators. -/
def splitOn (separator : Char) : List Char → List (List Char)
  | [] => [[]]
  | c :: rest =>
    match splitOn separator rest with
    | [] => [[c]]
    | piece :: pieces => if c = separator then [] :: piece :: pieces else (c :: piece) :: pieces

/-- There is at least one piece. -/
theorem splitOn_ne_nil (separator : Char) (text : List Char) : splitOn separator text ≠ [] := by
  cases text with
  | nil => simp [splitOn]
  | cons c rest =>
    simp only [splitOn]
    split
    · simp
    · split <;> simp

theorem splitOn_cons_self (separator : Char) (rest : List Char) :
    splitOn separator (separator :: rest) = [] :: splitOn separator rest := by
  simp only [splitOn]
  split
  · exact absurd ‹_› (splitOn_ne_nil separator rest)
  · simp [*]

/-- Text without the separator belongs to the first piece of what follows it. -/
theorem splitOn_append {separator : Char} {text : List Char} (hText : separator ∉ text)
    (rest : List Char) :
    splitOn separator (text ++ rest) = (splitOn separator rest).modifyHead (text ++ ·) := by
  obtain ⟨piece, pieces, hRest⟩ := List.exists_cons_of_ne_nil (splitOn_ne_nil separator rest)
  rw [hRest]
  induction text with
  | nil => exact hRest
  | cons c text ih =>
      obtain ⟨hc, hText⟩ := List.ne_and_not_mem_of_not_mem_cons hText
      rw [List.cons_append, splitOn, ih hText]
      simp [hc.symm]

end DbClient.Text
