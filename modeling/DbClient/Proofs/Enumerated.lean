import DbClient.Node.Protocol
import DbClient.Setting.Value
import Mathlib.Data.List.Nodup

/-! Enumerated types whose names can be told apart. Main statement: `parse_eq_ok_iff`, by which a
text denotes the one variant whose name it is. -/

namespace DbClient.Enumerated

open Text

/-- An enumerated type with all its variants listed, under names that differ in more than the
case of their letters and hold no blanks. -/
class Lawful (α : Type) [Enumerated α] : Prop where
  mem_all : ∀ variant : α, variant ∈ (all : List α)
  distinct : ((all : List α).map fun variant => foldCase (name variant).toList).Nodup
  plain : ∀ variant ∈ (all : List α), (name variant).toList.any isBlank = false

instance : Lawful Compression where
  mem_all variant := by cases variant <;> decide
  distinct := by decide +kernel
  plain := by decide +kernel

instance : Lawful DataFormat where
  mem_all variant := by cases variant <;> decide
  distinct := by decide +kernel
  plain := by decide +kernel

instance : Lawful BufferingMode where
  mem_all variant := by cases variant <;> decide
  distinct := by decide +kernel
  plain := by decide +kernel

instance : Lawful SslMode where
  mem_all variant := by cases variant <;> decide
  distinct := by decide +kernel
  plain := by decide +kernel

instance : Lawful Protocol where
  mem_all variant := by cases variant <;> decide
  distinct := by decide +kernel
  plain := by decide +kernel

variable {α : Type} [Enumerated α]

/-- A name is found only by a text that differs from it in the case of letters at most. -/
theorem sameName_of_ofCaselessName? {text : List Char} {variant : α}
    (hFound : ofCaselessName? text = some variant) :
    sameName (name variant).toList text = true := by
  rw [ofCaselessName?] at hFound
  have hName := List.find?_some hFound
  exact hName

variable [Lawful α]

/-- The variant that a text names is the one whose name differs from it in the case of letters at
most. -/
theorem ofCaselessName?_eq_some_iff {text : List Char} {variant : α} :
    ofCaselessName? text = some variant ↔ sameName (name variant).toList text = true := by
  refine ⟨sameName_of_ofCaselessName?, fun hName => ?_⟩
  have hSome : (ofCaselessName? text : Option α).isSome = true :=
    List.find?_isSome.mpr ⟨variant, Lawful.mem_all variant, hName⟩
  obtain ⟨found, hFound⟩ := Option.isSome_iff_exists.mp hSome
  have hSame := sameName_of_ofCaselessName? hFound
  have hFold := (sameName_iff.mp hSame).trans (sameName_iff.mp hName).symm
  rw [hFound, List.inj_on_of_nodup_map Lawful.distinct (Lawful.mem_all found)
    (Lawful.mem_all variant) hFold]

/-- A text denotes a variant if it is its name, whatever the case of its letters and the blanks
around it. -/
theorem parse_eq_ok_iff {text : List Char} {variant : α} :
    parse text = .ok variant ↔ sameName (name variant).toList (trim text) = true := by
  rw [← ofCaselessName?_eq_some_iff, parse]
  cases (ofCaselessName? (trim text) : Option α) <;> simp

/-- Every variant is read back from its name. -/
theorem parse_name (variant : α) : parse (name variant).toList = .ok variant := by
  have hPlain : ∀ c ∈ (name variant).toList, isBlank c = false := by
    simpa using Lawful.plain variant (Lawful.mem_all variant)
  rw [parse_eq_ok_iff, trim_of_plain hPlain]
  exact sameName_refl _

/-- A variant is found under its name. -/
theorem ofName?_name (variant : α) : ofName? (name variant) = some variant := by
  have hSome : (ofName? (name variant) : Option α).isSome = true :=
    List.find?_isSome.mpr ⟨variant, Lawful.mem_all variant, decide_eq_true rfl⟩
  obtain ⟨found, hFound⟩ := Option.isSome_iff_exists.mp hSome
  have hName : name found = name variant := by
    rw [ofName?] at hFound
    simpa using List.find?_some hFound
  have hFold : Text.foldCase (name found).toList = Text.foldCase (name variant).toList := by
    rw [hName]
  rw [hFound, List.inj_on_of_nodup_map Lawful.distinct (Lawful.mem_all found)
    (Lawful.mem_all variant) hFold]

end DbClient.Enumerated
