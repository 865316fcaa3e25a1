import DbClient.Proofs.Session.Layering
import DbClient.Proofs.Setting.Scanning

/-! Pairs written as a text. With a backslash in front of every special character, keys and values
of any characters keep apart. Main statement: `parse_written_pairs`, by which every list of pairs
without blanks around them reads back from its text as the map of the list. -/

namespace DbClient.Setting.PairText

open Text

variable {pair : String × String} {piece : List Char}

def isSpecial (c : Char) : Bool :=
  c = ',' || c = '=' || c = '\\'

/-- A text with a backslash in front of each special character. -/
def escape (text : List Char) : List Char :=
  text.flatMap fun c => if isSpecial c then ['\\', c] else [c]

/-- A pair is written as its key and its value, both escaped, with an equals sign between them.
Blanks may stand around each of the two. -/
inductive IsWritten : String × String → List Char → Prop where
  | pair {key value : String} {before between behind after : List Char}
      (hBefore : isAllBlank before = true) (hBetween : isAllBlank between = true)
      (hBehind : isAllBlank behind = true) (hAfter : isAllBlank after = true) :
      IsWritten (key, value) (before ++ (escape key.toList ++ (between ++ '=' ::
        (behind ++ (escape value.toList ++ after)))))

/-- Pairs that a text can hold: blanks around keys and values would be lost, and so would a pair
without a key. -/
structure IsStorable (pair : String × String) : Prop where
  key_ne_empty : pair.1 ≠ ""
  key_trimmed : IsTrimmed pair.1.toList
  value_trimmed : IsTrimmed pair.2.toList

instance : DecidablePred IsStorable := fun pair =>
  decidable_of_iff (pair.1 ≠ "" ∧ IsTrimmed pair.1.toList ∧ IsTrimmed pair.2.toList)
    ⟨fun ⟨hSome, hKey, hValue⟩ => ⟨hSome, hKey, hValue⟩,
      fun hPair => ⟨hPair.key_ne_empty, hPair.key_trimmed, hPair.value_trimmed⟩⟩

/-- The marks of an escaped text: its characters, of which the special ones are literal. -/
def literals (text : List Char) : List Mark :=
  text.map fun c => ⟨c, isSpecial c⟩

theorem escape_cons (c : Char) (rest : List Char) :
    escape (c :: rest) = if isSpecial c then '\\' :: c :: escape rest else c :: escape rest := by
  cases hSpecial : isSpecial c <;> simp [escape, hSpecial]

theorem escape_append (front back : List Char) :
    escape (front ++ back) = escape front ++ escape back :=
  List.flatMap_append

/-- Blanks are not escaped. -/
theorem isSpecial_of_isBlank {c : Char} (hBlank : isBlank c = true) : isSpecial c = false := by
  rw [isSpecial, Bool.or_eq_false_iff, Bool.or_eq_false_iff]
  refine ⟨⟨?_, ?_⟩, ?_⟩ <;>
  · rw [decide_eq_false_iff_not]
    rintro rfl
    exact absurd hBlank (by decide)

/-- Blanks are written as they are. -/
theorem escape_of_isAllBlank {blanks : List Char} (hBlanks : isAllBlank blanks = true) :
    escape blanks = blanks := by
  induction blanks with
  | nil => rfl
  | cons c rest ih =>
      rw [isAllBlank, List.all_cons, Bool.and_eq_true] at hBlanks
      rw [escape_cons, isSpecial_of_isBlank hBlanks.1, ih hBlanks.2]
      rfl

theorem ne_backslash_of_not_isSpecial {c : Char} (hSpecial : isSpecial c = false) : c ≠ '\\' := by
  rintro rfl
  exact absurd hSpecial (by decide)

/-- Escaped text is scanned as the characters that it was made of, each of them literal where it is
special. -/
theorem marks_escape_append (text rest : List Char) :
    marks (escape text ++ rest) = literals text ++ marks rest := by
  induction text with
  | nil => rfl
  | cons c text ih =>
      rw [escape_cons, literals, List.map_cons, ← literals]
      cases hSpecial : isSpecial c with
      | true => simpa [marks] using ih
      | false => simpa [marks_cons_of_ne (ne_backslash_of_not_isSpecial hSpecial)] using ih

/-- No backslash of an escaped text marks what follows it. -/
theorem endsActive_escape_append (text rest : List Char) :
    endsActive (escape text ++ rest) = endsActive rest := by
  induction text with
  | nil => rfl
  | cons c text ih =>
      rw [escape_cons]
      cases hSpecial : isSpecial c with
      | true => simpa [endsActive] using ih
      | false => simpa [endsActive, ne_backslash_of_not_isSpecial hSpecial] using ih

/-- No character of an escaped text is active. -/
theorem isActive_of_mem_literals {text : List Char} {mark : Mark} (hMark : mark ∈ literals text)
    {special : Char} (hSpecial : isSpecial special = true) : mark.isActive special = false := by
  obtain ⟨c, -, rfl⟩ := List.mem_map.mp hMark
  rw [Mark.isActive]
  by_cases hc : c = special
  · simp [hc, hSpecial]
  · simp [hc]

theorem unmarked_literals (text : List Char) : unmarked (literals text) = text := by
  simp [unmarked, literals, Function.comp_def]

/-- An escaped key and an escaped value are one piece, cut between the two. -/
theorem segments_escape (key value : List Char) :
    segments (escape key ++ '=' :: escape value) =
      [literals key ++ ⟨'=', false⟩ :: literals value] := by
  have hValue : marks (escape value) = literals value := by
    have hMarks := marks_escape_append value []
    rwa [List.append_nil, marks, List.append_nil] at hMarks
  rw [segments, marks_escape_append, marks_cons_of_ne (by decide), hValue]
  apply List.splitOnP_eq_singleton
  intro mark hMark
  rcases List.mem_append.mp hMark with hMark | hMark
  · exact isActive_of_mem_literals hMark rfl
  rcases List.mem_cons.mp hMark with rfl | hMark
  · rfl
  · exact isActive_of_mem_literals hMark rfl

/-- The pair of a segment that was escaped has its key and its value, without blanks around them. -/
theorem pair?_literals (key value : List Char) :
    pair? (literals key ++ ⟨'=', false⟩ :: literals value) =
      if (trim key).isEmpty then none else some (.ofList (trim key), .ofList (trim value)) := by
  have hKey : ∀ mark ∈ literals key, (!mark.isActive '=') = true := by
    intro mark hMark
    rw [isActive_of_mem_literals hMark rfl]
    rfl
  have hBefore : beforeEquals (literals key ++ ⟨'=', false⟩ :: literals value) = literals key := by
    rw [beforeEquals, List.takeWhile_append_of_pos hKey]
    exact List.append_nil _
  have hBehind : behindEquals? (literals key ++ ⟨'=', false⟩ :: literals value) =
      some (literals value) := by
    rw [behindEquals?, List.dropWhile_append_of_pos hKey]
    rfl
  rw [pair?, hBehind, hBefore]
  simp only [unmarked_literals]

/-- Blanks can be taken for a part of the key or value that they stand around. -/
theorem IsWritten.exists_escape (hWritten : IsWritten pair piece) (hPair : IsStorable pair) :
    ∃ key value, piece = escape key ++ '=' :: escape value ∧
      trim key = pair.1.toList ∧ trim value = pair.2.toList := by
  cases hWritten with
  | @pair key value before between behind after hBefore hBetween hBehind hAfter =>
      refine ⟨before ++ (key.toList ++ between), behind ++ (value.toList ++ after), ?_,
        hPair.key_trimmed.trim_append_append hBefore hBetween,
        hPair.value_trimmed.trim_append_append hBehind hAfter⟩
      simp only [escape_append, escape_of_isAllBlank hBefore, escape_of_isAllBlank hBetween,
        escape_of_isAllBlank hBehind, escape_of_isAllBlank hAfter, List.append_assoc]

/-- A pair that is written ends in no backslash that is active. -/
theorem IsWritten.endsActive_eq_false (hWritten : IsWritten pair piece)
    (hPair : IsStorable pair) : endsActive piece = false := by
  obtain ⟨key, value, rfl, -, -⟩ := hWritten.exists_escape hPair
  have hValue := endsActive_escape_append value []
  rw [List.append_nil] at hValue
  rw [endsActive_escape_append]
  simpa [endsActive] using hValue

/-- A written pair is one piece, which means the pair. -/
theorem IsWritten.filterMap_segments (hWritten : IsWritten pair piece)
    (hPair : IsStorable pair) : (segments piece).filterMap pair? = [pair] := by
  obtain ⟨key, value, rfl, hKey, hValue⟩ := hWritten.exists_escape hPair
  have hSome : (trim key).isEmpty = false := by
    rw [hKey, List.isEmpty_eq_false_iff, ne_eq, String.toList_eq_nil_iff]
    exact hPair.key_ne_empty
  rw [segments_escape, List.filterMap_cons, pair?_literals, hSome, hKey, hValue,
    String.ofList_toList, String.ofList_toList]
  rfl

/-- The segments of written pairs with commas between them are the pairs. -/
theorem filterMap_segments_intercalate {pairs : List (String × String)}
    {pieces : List (List Char)} (hPairs : ∀ pair ∈ pairs, IsStorable pair)
    (hPieces : List.Forall₂ IsWritten pairs pieces) :
    (segments ([','].intercalate pieces)).filterMap pair? = pairs := by
  induction hPieces with
  | nil => rfl
  | @cons pair piece pairs pieces hWritten hPieces ih =>
      obtain ⟨hPair, hPairs⟩ := List.forall_mem_cons.mp hPairs
      have hRest := ih hPairs
      cases hPieces with
      | nil => rw [List.intercalate_singleton, hWritten.filterMap_segments hPair]
      | cons hNext hOthers =>
          rw [List.intercalate_cons_cons, List.append_assoc, List.singleton_append,
            segments_append_comma (hWritten.endsActive_eq_false hPair), List.filterMap_append,
            hWritten.filterMap_segments hPair, hRest]
          rfl

/-- Every list of pairs can be written and read back. With a backslash in front of each comma,
equals sign and backslash in keys and values, commas between the pairs, and any blanks around the
commas and the equals signs, the text reads as the map of the list: it binds each key to the value
that the last pair with this key has. -/
theorem parse_written_pairs {pairs : List (String × String)} {pieces : List (List Char)}
    (hPairs : ∀ pair ∈ pairs, IsStorable pair) (hPieces : List.Forall₂ IsWritten pairs pieces) :
    parse (.ofList ([','].intercalate pieces)) = .ofList pairs ∧
    ∀ key, IsLastGiven (fun pair => if pair.1 = key then some pair.2 else none) pairs
      ((parse (.ofList ([','].intercalate pieces))).get? key) := by
  have hParse : parse (.ofList ([','].intercalate pieces)) = .ofList pairs := by
    rw [parse_eq_meaning, meaning, String.toList_ofList,
      filterMap_segments_intercalate hPairs hPieces]
  refine ⟨hParse, fun key => ?_⟩
  have hLast := isLastGiven_get?_ofList some pairs key
  rw [List.filterMap_some] at hLast
  rw [hParse]
  exact hLast

/-- Pairs with special characters at the ends of keys and values, and a key that occurs twice. -/
def awkwardPairs : List (String × String) :=
  [("a\\", ",=\\"), ("b=c", ""), ("a\\", "d")]

/-- The backslash at the end of a key is escaped, so that it does not take the equals sign. -/
theorem parse_written_pairs_awkward :
    (∀ pair ∈ awkwardPairs, IsStorable pair) ∧
    parse " a\\\\ =\\,\\=\\\\ , b\\=c=,a\\\\=d" = .ofList awkwardPairs ∧
    (parse " a\\\\ =\\,\\=\\\\ , b\\=c=,a\\\\=d").get? "a\\" = some "d" := by
  have hPairs : ∀ pair ∈ awkwardPairs, IsStorable pair := by decide
  have hRead := (parse_written_pairs hPairs
    (.cons (@IsWritten.pair _ _ [' '] [' '] [] [' '] rfl rfl rfl rfl)
      (.cons (@IsWritten.pair _ _ [' '] [] [] [] rfl rfl rfl rfl)
        (.cons (@IsWritten.pair _ _ [] [] [] [] rfl rfl rfl rfl) .nil)))).1
  refine ⟨hPairs, hRead, ?_⟩
  exact (congrArg (SortedMap.get? · "a\\") hRead).trans (by decide +kernel)

end DbClient.Setting.PairText
