import DbClient.Proofs.Setting.ValueText
import Mathlib.Data.List.Forall2

/-! What the text of a value means at each type, apart from how it is read. Main statement:
`parse_reads_exactly`, by which every value is read back from its text, and exactly those texts are
read that denote a value. -/

namespace DbClient

namespace Text

/-- Two characters that are the same, or the capital and the small form of an ASCII letter. -/
inductive IsCaseOf : Char → Char → Prop where
  | same (c : Char) : IsCaseOf c c
  | small {c d : Char} (hCapital : c.isUpper = true) (hSmall : d.toNat = c.toNat + 32) :
      IsCaseOf c d
  | capital {c d : Char} (hCapital : d.isUpper = true) (hSmall : c.toNat = d.toNat + 32) :
      IsCaseOf c d

/-- Characters are the same but for case exactly if they are the same or two cases of a letter. -/
theorem toLower_eq_toLower_iff {c d : Char} : c.toLower = d.toLower ↔ IsCaseOf c d := by
  rw [← Char.toNat_inj, toNat_toLower, toNat_toLower]
  constructor
  · intro hFolded
    split at hFolded <;> split at hFolded
    · obtain rfl := Char.toNat_inj.mp (Nat.add_right_cancel hFolded)
      exact .same c
    · exact .small ‹_› hFolded.symm
    · exact .capital ‹_› hFolded
    · obtain rfl := Char.toNat_inj.mp hFolded
      exact .same c
  · intro hCase
    cases hCase with
    | same => rfl
    | small hCapital hSmall =>
        have hBounds := isUpper_iff.mp hCapital
        have hOther : ¬ d.isUpper = true := fun hUpper => by
          have := isUpper_iff.mp hUpper
          omega
        rw [if_pos hCapital, if_neg hOther, hSmall]
    | capital hCapital hSmall =>
        have hBounds := isUpper_iff.mp hCapital
        have hOther : ¬ c.isUpper = true := fun hUpper => by
          have := isUpper_iff.mp hUpper
          omega
        rw [if_pos hCapital, if_neg hOther, hSmall]

/-- Names are the same if they differ in the case of ASCII letters only. -/
theorem sameName_iff_forall₂ {left right : List Char} :
    sameName left right = true ↔ List.Forall₂ IsCaseOf left right := by
  rw [sameName_iff, foldCase, foldCase, ← List.forall₂_eq_eq_eq, List.forall₂_map_left_iff,
    List.forall₂_map_right_iff]
  simp only [toLower_eq_toLower_iff]

end Text

namespace Setting.Value

open Text

variable {text : String} {type : ValueType} {value found : Value} {name other : String}

/-- The values of the enumerated types, with their canonical names. -/
inductive HasName : ValueType → Value → String → Prop where
  | compression (variant : Compression) :
      HasName .compression (.compression variant) (Enumerated.name variant)
  | format (variant : DataFormat) : HasName .format (.format variant) (Enumerated.name variant)
  | buffering (variant : BufferingMode) :
      HasName .buffering (.buffering variant) (Enumerated.name variant)
  | sslMode (variant : SslMode) : HasName .sslMode (.sslMode variant) (Enumerated.name variant)

/-- The texts of a flag that is set. -/
def IsTrueText (text : List Char) : Prop :=
  text = ['1'] ∨ List.Forall₂ IsCaseOf ['t', 'r', 'u', 'e'] text

/-- What a text denotes at a type. A string is its whole text, and for all other types blanks
around the text do not count. -/
inductive Denotes (text : String) : ValueType → Value → Prop where
  | flag (truth : Bool) (hText : truth = true ↔ IsTrueText (trim text.toList)) :
      Denotes text .flag (.flag truth)
  | int (number : Int32) (hText : Number.IsIntegerText (trim text.toList) number.toInt) :
      Denotes text .int (.int number)
  | long (number : Int64) (hText : Number.IsIntegerText (trim text.toList) number.toInt) :
      Denotes text .long (.long number)
  | text : Denotes text .text (.text text)
  | named {type : ValueType} {value : Value} {name : String} (hName : HasName type value name)
      (hText : List.Forall₂ IsCaseOf name.toList (trim text.toList)) : Denotes text type value

theorem parseNumber_eq_ok_iff {α : Type} {noun : String}
    {read : List Char → Except Number.IntegerFault α} {number : α} :
    parseNumber noun read text = .ok number ↔ read (trim text.toList) = .ok number := by
  rw [parseNumber]
  cases read (trim text.toList) <;> simp

/-- A flag is set by the texts of truth and unset by all others. -/
theorem parse_flag_eq_ok_iff {truth : Bool} : parse text .flag = .ok (.flag truth) ↔
    (truth = true ↔ IsTrueText (trim text.toList)) := by
  have hName : sameName (trim text.toList) ['t', 'r', 'u', 'e'] = true ↔
      List.Forall₂ IsCaseOf ['t', 'r', 'u', 'e'] (trim text.toList) :=
    Iff.trans ⟨sameName_symm, sameName_symm⟩ sameName_iff_forall₂
  simp only [parse, Except.ok.injEq, flag.injEq]
  rw [Bool.eq_iff_iff, Bool.or_eq_true, beq_iff_eq, hName, IsTrueText, or_comm]
  exact iff_comm

/-- A text of an enumerated type denotes the variant whose name it is. -/
theorem map_parse_eq_ok_iff {α : Type} [Enumerated α] [Enumerated.Lawful α] {make : α → Value} :
    (Enumerated.parse text.toList).map make = .ok value ↔ ∃ variant : α, make variant = value ∧
      List.Forall₂ IsCaseOf (Enumerated.name variant).toList (trim text.toList) := by
  rw [map_eq_ok_iff]
  simp only [Enumerated.parse_eq_ok_iff, sameName_iff_forall₂, and_comm]

/-- Exactly the texts that denote a value are read, and as this value. -/
theorem parse_eq_ok_iff_denotes : parse text type = .ok value ↔ Denotes text type value := by
  constructor
  · intro hParse
    cases type with
    | flag =>
        cases hParse
        exact .flag _ (parse_flag_eq_ok_iff.mp rfl)
    | int =>
        obtain ⟨number, hRead, rfl⟩ := map_eq_ok_iff.mp hParse
        exact .int number (Number.readInt32_eq_ok_iff.mp (parseNumber_eq_ok_iff.mp hRead))
    | long =>
        obtain ⟨number, hRead, rfl⟩ := map_eq_ok_iff.mp hParse
        exact .long number (Number.readInt64_eq_ok_iff.mp (parseNumber_eq_ok_iff.mp hRead))
    | text =>
        cases hParse
        exact .text
    | compression =>
        obtain ⟨variant, rfl, hText⟩ := map_parse_eq_ok_iff.mp hParse
        exact .named (.compression variant) hText
    | format =>
        obtain ⟨variant, rfl, hText⟩ := map_parse_eq_ok_iff.mp hParse
        exact .named (.format variant) hText
    | buffering =>
        obtain ⟨variant, rfl, hText⟩ := map_parse_eq_ok_iff.mp hParse
        exact .named (.buffering variant) hText
    | sslMode =>
        obtain ⟨variant, rfl, hText⟩ := map_parse_eq_ok_iff.mp hParse
        exact .named (.sslMode variant) hText
  · intro hDenotes
    cases hDenotes with
    | flag truth hText => exact parse_flag_eq_ok_iff.mpr hText
    | int number hText =>
        exact map_eq_ok_iff.mpr
          ⟨number, parseNumber_eq_ok_iff.mpr (Number.readInt32_eq_ok_iff.mpr hText), rfl⟩
    | long number hText =>
        exact map_eq_ok_iff.mpr
          ⟨number, parseNumber_eq_ok_iff.mpr (Number.readInt64_eq_ok_iff.mpr hText), rfl⟩
    | text => rfl
    | named hName hText =>
        cases hName with
        | compression variant => exact map_parse_eq_ok_iff.mpr ⟨variant, rfl, hText⟩
        | format variant => exact map_parse_eq_ok_iff.mpr ⟨variant, rfl, hText⟩
        | buffering variant => exact map_parse_eq_ok_iff.mpr ⟨variant, rfl, hText⟩
        | sslMode variant => exact map_parse_eq_ok_iff.mpr ⟨variant, rfl, hText⟩

theorem eq_of_sameName {α : Type} [Enumerated α] [Enumerated.Lawful α] {first second : α}
    {name : List Char} (hFirst : List.Forall₂ IsCaseOf (Enumerated.name first).toList name)
    (hSecond : List.Forall₂ IsCaseOf (Enumerated.name second).toList name) : first = second := by
  have hFound := Enumerated.ofCaselessName?_eq_some_iff.mpr (sameName_iff_forall₂.mpr hFirst)
  rw [Enumerated.ofCaselessName?_eq_some_iff.mpr (sameName_iff_forall₂.mpr hSecond)] at hFound
  exact (Option.some.inj hFound).symm

/-- No two variants of a type are known by names that differ in the case of letters only. -/
theorem HasName.unique {spelled : List Char} (hName : HasName type value name)
    (hOther : HasName type found other) (hSpelled : List.Forall₂ IsCaseOf name.toList spelled)
    (hOtherSpelled : List.Forall₂ IsCaseOf other.toList spelled) : value = found := by
  cases hName with
  | compression variant =>
      cases hOther with
      | compression => rw [eq_of_sameName hSpelled hOtherSpelled]
  | format variant =>
      cases hOther with
      | format => rw [eq_of_sameName hSpelled hOtherSpelled]
  | buffering variant =>
      cases hOther with
      | buffering => rw [eq_of_sameName hSpelled hOtherSpelled]
  | sslMode variant =>
      cases hOther with
      | sslMode => rw [eq_of_sameName hSpelled hOtherSpelled]

/-- Every value of every type is read back from its text. A text is read exactly if it denotes a
value, and as this value: at an enumerated type it is, in any case, the name of a variant, which is
the only one with this name, and at the types of whole numbers an optional sign and at least one
digit, for a number that the type holds. -/
theorem parse_reads_exactly :
    (∀ value : Value, parse value.toText value.type = .ok value) ∧
    (∀ text type value, parse text type = .ok value ↔ Denotes text type value) ∧
    ∀ type value name found other spelled, HasName type value name → HasName type found other →
      List.Forall₂ IsCaseOf name.toList spelled → List.Forall₂ IsCaseOf other.toList spelled →
        value = found :=
  ⟨parse_toText_type, fun _ _ _ => parse_eq_ok_iff_denotes,
    fun _ _ _ _ _ _ hName hOther => hName.unique hOther⟩

/-- A number with a sign, zeros and blanks, and a name in another case. -/
theorem parse_reads_exactly_spelled :
    parse " +007 " .int = .ok (.int 7) ∧ parse " zStd" .compression = .ok (.compression .zstd) ∧
    (∀ found other, HasName .compression found other →
      List.Forall₂ IsCaseOf other.toList ['z', 'S', 't', 'd'] → found = .compression .zstd) := by
  have hSpelled : List.Forall₂ IsCaseOf (Enumerated.name Compression.zstd).toList
      ['z', 'S', 't', 'd'] := sameName_iff_forall₂.mp (by decide)
  refine ⟨?_, ?_, fun found other hName hOther => ?_⟩
  · have hDigits : Number.AreDigits ['0', '0', '7'] := by simp [Number.AreDigits]
    exact (parse_reads_exactly.2.1 _ _ _).mpr (.int 7 (.signed .plus hDigits (by decide)))
  · exact (parse_reads_exactly.2.1 _ _ _).mpr (.named (.compression .zstd) hSpelled)
  · exact parse_reads_exactly.2.2 _ _ _ _ _ _ hName (.compression .zstd) hOther hSpelled

end Setting.Value

end DbClient
