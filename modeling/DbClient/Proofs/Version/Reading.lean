import DbClient.Proofs.Number.Digits
import DbClient.Proofs.Version.Order

/-! How versions are read. Main statement: `parse_reads_leniently`, by which the text of a version
reads back, parts are read whatever surrounds them, and only blank text and `latest` denote the
latest version. -/

namespace DbClient.Version

open Number Text

variable {text : String} {before after : List Char} {pieces : List (List Char)}

/-- Where digits end, the reading of parts goes on or stops at a suffix. -/
theorem readParts_cons {digits suffix : List Char} (hSome : digits ≠ [])
    (hDigits : AreDigits digits) (hSuffix : EndsDigits suffix) (rest : List (List Char)) :
    readParts ((digits ++ suffix) :: rest) =
      readPart digits :: if suffix = [] then readParts rest else [] := by
  rw [readParts, takeWhile_digits hDigits hSuffix]
  cases suffix with
  | nil => simp [hSome]
  | cons c suffix => simp [hSome]

/-- Digits alone are one part, whatever ends them. A dot behind them ends them if no further part
is looked at. -/
theorem readParts_splitOn_digits {digits : List Char} {limit : Nat} (hSome : digits ≠ [])
    (hDigits : AreDigits digits) (hNoDot : '.' ∉ digits) (hAfter : EndsDigits after)
    (hDot : after.head? = some '.' → limit = 0) :
    readParts ((splitOn '.' (digits ++ after)).take (limit + 1)) = [readPart digits] := by
  rw [splitOn_append hNoDot]
  cases after with
  | nil =>
      have hRead := readParts_cons hSome hDigits endsDigits_nil []
      simpa [splitOn, readParts] using hRead
  | cons c after =>
      by_cases hc : c = '.'
      · subst hc
        have hRead := readParts_cons hSome hDigits endsDigits_nil []
        rw [splitOn_cons_self, hDot rfl]
        simpa [readParts] using hRead
      · obtain ⟨piece, others, hRest⟩ := List.exists_cons_of_ne_nil (splitOn_ne_nil '.' after)
        have hSuffix : EndsDigits (c :: piece) := endsDigits_cons (hAfter c after rfl) piece
        have hRead := readParts_cons hSome hDigits hSuffix (others.take limit)
        simpa [splitOn, hRest, hc] using hRead

/-- Parts with dots between them are read up to the suffix behind them, which may begin with a dot
if no further part is looked at. -/
theorem readParts_splitOn {limit : Nat} (hSome : pieces ≠ []) (hLimit : pieces.length ≤ limit)
    (hPieces : ∀ digits ∈ pieces, digits ≠ [] ∧ AreDigits digits) (hAfter : EndsDigits after)
    (hDot : after.head? = some '.' → pieces.length = limit) :
    readParts ((splitOn '.' (['.'].intercalate pieces ++ after)).take limit) =
      pieces.map readPart := by
  induction pieces generalizing limit with
  | nil => exact absurd rfl hSome
  | cons digits others ih =>
      obtain ⟨⟨hFirst, hDigits⟩, hOthers⟩ := List.forall_mem_cons.mp hPieces
      have hNoDot : '.' ∉ digits := fun hMem => absurd (hDigits '.' hMem) (by decide)
      obtain ⟨limit, rfl⟩ := Nat.exists_eq_add_of_le' (Nat.le_trans (Nat.le_add_left 1 _) hLimit)
      cases others with
      | nil =>
          rw [List.intercalate_singleton]
          exact readParts_splitOn_digits hFirst hDigits hNoDot hAfter
            fun hHead => (Nat.succ.inj (hDot hHead)).symm
      | cons second others =>
          have hRest := ih (List.cons_ne_nil _ _) (Nat.le_of_succ_le_succ hLimit) hOthers
            fun hHead => Nat.succ.inj (hDot hHead)
          have hRead := readParts_cons hFirst hDigits endsDigits_nil
            ((splitOn '.' (['.'].intercalate (second :: others) ++ after)).take limit)
          rw [if_pos rfl, hRest] at hRead
          rw [List.intercalate_cons_cons, List.append_assoc, List.append_assoc,
            List.singleton_append, splitOn_append hNoDot, splitOn_cons_self]
          simpa using hRead

/-- Digits with points between them start with a digit. -/
theorem exists_intercalate_dot (hSome : pieces ≠ [])
    (hPieces : ∀ digits ∈ pieces, digits ≠ [] ∧ AreDigits digits) :
    ∃ first rest, ['.'].intercalate pieces = first :: rest ∧ first.isDigit = true := by
  obtain ⟨digits, others, rfl⟩ := List.exists_cons_of_ne_nil hSome
  obtain ⟨hFirst, hDigits⟩ := hPieces digits List.mem_cons_self
  obtain ⟨first, rest, rfl⟩ := List.exists_cons_of_ne_nil hFirst
  have hDigit := hDigits first List.mem_cons_self
  cases others with
  | nil => exact ⟨first, rest, List.intercalate_singleton, hDigit⟩
  | cons second others => exact ⟨first, _, List.intercalate_cons_cons, hDigit⟩

/-- There are no blanks among parts with dots between them. -/
theorem isBlank_of_mem_intercalate_dot (hPieces : ∀ digits ∈ pieces, digits ≠ [] ∧ AreDigits digits)
    {c : Char} (hMem : c ∈ ['.'].intercalate pieces) : isBlank c = false := by
  induction pieces with
  | nil => cases hMem
  | cons digits others ih =>
      obtain ⟨⟨-, hDigits⟩, hOthers⟩ := List.forall_mem_cons.mp hPieces
      cases others with
      | nil =>
          rw [List.intercalate_singleton] at hMem
          exact isBlank_of_isDigit (hDigits c hMem)
      | cons second others =>
          rw [List.intercalate_cons_cons, List.append_assoc, List.mem_append, List.mem_append,
            List.mem_singleton] at hMem
          rcases hMem with hFirst | rfl | hRest
          · exact isBlank_of_isDigit (hDigits c hFirst)
          · decide
          · exact ih hOthers hRest

theorem endsDigits_trimEnd (hAfter : EndsDigits after) : EndsDigits (trimEnd after) := by
  intro c rest hText
  obtain ⟨tail, hSplit⟩ := trimEnd_prefix after
  rw [hText, List.cons_append] at hSplit
  exact hAfter c (rest ++ tail) hSplit.symm

theorem head?_of_trimEnd {c : Char} (hHead : (trimEnd after).head? = some c) :
    after.head? = some c := by
  obtain ⟨tail, hSplit⟩ := trimEnd_prefix after
  rw [← hSplit, List.head?_append, hHead, Option.some_or]

/-- A text denotes the latest version if it is blank or says so. -/
theorem parse_eq_latest_iff :
    parse text = latest ↔
      trim text.toList = [] ∨ sameName (trim text.toList) "latest".toList = true := by
  rw [parse]
  dsimp only
  split <;> simp_all

/-- Text with a digit is read from its first digit on. -/
theorem parse_of_isDigit {c : Char} (hc : c ∈ trim text.toList) (hDigit : c.isDigit = true)
    {parts : List UInt32}
    (hRead : readParts ((splitOn '.' ((trim text.toList).dropWhile (!·.isDigit))).take 4) = parts) :
    parse text = numbered (.ofList parts) parts.length := by
  have hName : sameName (trim text.toList) ['l', 'a', 't', 'e', 's', 't'] = false := by
    rw [← Bool.not_eq_true]
    intro hSame
    have hMem := mem_of_sameName hSame hc (not_isUpper_of_isDigit hDigit)
    have hLetters : (foldCase ['l', 'a', 't', 'e', 's', 't']).all (!·.isDigit) = true := by decide
    have hLetter := List.all_eq_true.mp hLetters c hMem
    rw [hDigit] at hLetter
    cases hLetter
  rw [parse]
  dsimp only
  rw [if_neg, hRead]
  simp [hName, List.ne_nil_of_mem hc]

/-- Parts are read wherever they begin, up to the suffix behind them. -/
theorem parse_written (hText : text.toList = before ++ (['.'].intercalate pieces ++ after))
    (hBefore : ∀ c ∈ before, c.isDigit = false) (hSome : pieces ≠ [])
    (hLimit : pieces.length ≤ 4) (hPieces : ∀ digits ∈ pieces, digits ≠ [] ∧ AreDigits digits)
    (hAfter : EndsDigits after) (hDot : after.head? = some '.' → pieces.length = 4) :
    parse text = numbered (.ofList (pieces.map readPart)) pieces.length := by
  obtain ⟨first, rest, hBody, hFirst⟩ := exists_intercalate_dot hSome hPieces
  have hTrim : trim text.toList =
      trimStart before ++ (['.'].intercalate pieces ++ trimEnd after) := by
    rw [hText]
    exact trim_append_append (hBody ▸ List.cons_ne_nil first rest)
      (fun c => isBlank_of_mem_intercalate_dot hPieces) before after
  have hStart : ∀ c ∈ trimStart before, (!c.isDigit) = true := by
    intro c hc
    simp [hBefore c ((List.dropWhile_sublist isBlank).mem hc)]
  have hDrop : (trim text.toList).dropWhile (!·.isDigit) =
      ['.'].intercalate pieces ++ trimEnd after := by
    rw [hTrim, List.dropWhile_append_of_pos hStart, hBody, List.cons_append,
      List.dropWhile_cons_of_neg (by simp [hFirst])]
  have hRead := readParts_splitOn hSome hLimit hPieces (endsDigits_trimEnd hAfter)
    fun hHead => hDot (head?_of_trimEnd hHead)
  have hMem : first ∈ trim text.toList := by
    rw [hTrim, hBody]
    simp
  rw [← hDrop] at hRead
  rw [parse_of_isDigit hMem hFirst hRead, List.length_map]

/-- A part that is too great is the greatest word. -/
theorem toNat_readPart (digits : List Char) :
    (readPart digits).toNat = min (natOfDigits digits) (2 ^ 32 - 1) := by
  have hPart : min (natOfDigits digits) (2 ^ 32 - 1) < 2 ^ 32 := by omega
  rw [readPart]
  exact UInt32.toNat_ofNat_of_lt' hPart

theorem readPart_natText (part : UInt32) : readPart (natText part.toNat) = part := by
  have hPart := part.toNat_lt
  rw [← UInt32.toNat_inj, toNat_readPart, natOfDigits_natText]
  omega

/-- The text of a version reads back. -/
theorem same_parse_toText (version : Version) : same (parse version.toText) version = true := by
  cases version with
  | latest => decide
  | numbered release specified =>
      have hText : (numbered release specified).toText.toList =
          [] ++ (['.'].intercalate (release.toList.map fun part => natText part.toNat) ++ []) := by
        simp [toText, Function.comp_def]
      have hPieces : ∀ digits ∈ release.toList.map fun part => natText part.toNat,
          digits ≠ [] ∧ AreDigits digits := by
        intro digits hMem
        obtain ⟨part, -, rfl⟩ := List.mem_map.mp hMem
        exact ⟨Nat.toDigits_ne_nil, areDigits_natText part.toNat⟩
      rw [parse_written hText (by simp) (by simp [Release.toList]) (by simp [Release.toList])
        hPieces endsDigits_nil (by simp), List.map_map]
      simp [same, Function.comp_def, readPart_natText, Release.toList, Release.ofList]

/-- The text of a version reads back as the same version. Up to four parts are read wherever they
begin and whatever follows them; a part that is too large counts as the largest one, and parts that
are missing as zero. Exactly the parts that were written are compared by the checks. Apart from
blank text only the word `latest` denotes the latest version. -/
theorem parse_reads_leniently :
    (∀ version : Version, same (parse version.toText) version = true) ∧
    (∀ (text : String) (before : List Char) (pieces : List (List Char)) (after : List Char),
      text.toList = before ++ (['.'].intercalate pieces ++ after) →
      (∀ c ∈ before, c.isDigit = false) → 1 ≤ pieces.length → pieces.length ≤ 4 →
      (∀ digits ∈ pieces, digits ≠ [] ∧ AreDigits digits) →
      EndsDigits after → (after.head? = some '.' → pieces.length = 4) →
      ∃ release, parse text = numbered release pieces.length ∧
        release.toList.map UInt32.toNat =
          pieces.map (fun digits => min (natOfDigits digits) (2 ^ 32 - 1)) ++
            List.replicate (4 - pieces.length) 0 ∧
        ∀ (other : Release) (specified : Nat), orderPrefix (numbered other specified) (parse text) =
          compare (other.toList.take pieces.length) (release.toList.take pieces.length)) ∧
    ∀ text : String, parse text = latest ↔
      trim text.toList = [] ∨ sameName (trim text.toList) "latest".toList = true := by
  refine ⟨same_parse_toText, ?_, fun _ => parse_eq_latest_iff⟩
  intro text before pieces after hText hBefore hLower hLimit hPieces hAfter hDot
  have hSome : pieces ≠ [] := List.ne_nil_of_length_pos hLower
  have hParse := parse_written hText hBefore hSome hLimit hPieces hAfter hDot
  refine ⟨_, hParse, ?_, fun other specified => ?_⟩
  · rw [Release.toList_ofList (by simpa using hLimit)]
    simp [toNat_readPart, Function.comp_def]
  · rw [hParse, orderPrefix, Nat.max_eq_left hLower]

/-- The second part is beyond the largest value of a part, and digits behind a suffix are none of
the parts. -/
theorem parse_release_with_suffix :
    ∃ release, parse " v022.99999999999-lts 9" = numbered release 2 ∧
      release.toList.map UInt32.toNat = [22, 2 ^ 32 - 1, 0, 0] := by
  obtain ⟨release, hParse, hParts, -⟩ := parse_reads_leniently.2.1 " v022.99999999999-lts 9"
    [' ', 'v'] ["022".toList, "99999999999".toList] "-lts 9".toList (by decide) (by simp)
    (by decide) (by decide) (by simp [AreDigits]) (endsDigits_cons rfl _) (by simp)
  exact ⟨release, hParse, hParts⟩

end DbClient.Version
