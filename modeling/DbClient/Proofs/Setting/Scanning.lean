import DbClient.Setting.PairText

/-! What a text of key and value pairs means, apart from how it is scanned: backslashes are
resolved first, then the text is cut at commas and each piece at its first equals sign. Main
statement: `parse_splits`, by which the scanner finds what a text means. -/

namespace DbClient.Setting.PairText

open Text

variable {entry : Entry} {pairs : PairMap} {front : List Char}

/-- A character, and whether a backslash has taken its special meaning. -/
structure Mark where
  char : Char
  literal : Bool
  deriving DecidableEq, Repr

/-- The characters of a text without the backslashes that mark others. A backslash at the end has
nothing to mark. -/
def marks : List Char → List Mark
  | [] => []
  | ['\\'] => []
  | '\\' :: c :: rest => ⟨c, true⟩ :: marks rest
  | c :: rest => ⟨c, false⟩ :: marks rest

/-- Whether the last character of a text is a backslash that would mark the next one. -/
def endsActive : List Char → Bool
  | [] => false
  | ['\\'] => true
  | '\\' :: _ :: rest => endsActive rest
  | _ :: rest => endsActive rest

/-- Whether a special character stands there and has its special meaning. -/
def Mark.isActive (special : Char) (mark : Mark) : Bool :=
  mark.char = special && !mark.literal

def unmarked (marks : List Mark) : List Char :=
  marks.map Mark.char

/-- The pieces of a text between its commas. -/
def segments (text : List Char) : List (List Mark) :=
  (marks text).splitOnP (Mark.isActive ',')

def beforeEquals (segment : List Mark) : List Mark :=
  segment.takeWhile fun mark => !mark.isActive '='

/-- What stands behind the first equals sign, if there is one. -/
def behindEquals? (segment : List Mark) : Option (List Mark) :=
  match segment.dropWhile fun mark => !mark.isActive '=' with
  | [] => none
  | _ :: behind => some behind

/-- The pair of a piece that has an equals sign and a key that is not blank. -/
def pair? (segment : List Mark) : Option (String × String) :=
  match behindEquals? segment with
  | none => none
  | some behind =>
    let key := trim (unmarked (beforeEquals segment))
    if key.isEmpty then none else some (.ofList key, .ofList (trim (unmarked behind)))

/-- The map that a text means. Later pieces win. -/
def meaning (text : String) : PairMap :=
  .ofList ((segments text.toList).filterMap pair?)

/-- The entry with one more mark. -/
def Entry.pushMark (entry : Entry) (mark : Mark) : Entry :=
  if mark.isActive '=' then entry.equals else entry.push mark.char

/-- Reads the rest of a marked text behind an incomplete entry. -/
def scanMarks (entry : Entry) (pairs : PairMap) : List Mark → PairMap
  | [] => entry.record pairs
  | mark :: rest =>
    if mark.isActive ',' then scanMarks .start (entry.record pairs) rest
    else scanMarks (entry.pushMark mark) pairs rest

/-- A backslash is alone or stands before the character that it marks. -/
theorem ne_backslash {c : Char} {rest : List Char} (hLast : c = '\\' → rest = [] → False)
    (hEscape : ∀ d others, c = '\\' → rest = d :: others → False) : c ≠ '\\' := by
  intro hc
  cases rest with
  | nil => exact hLast hc rfl
  | cons d others => exact hEscape d others hc rfl

theorem marks_cons_of_ne {c : Char} (hc : c ≠ '\\') (rest : List Char) :
    marks (c :: rest) = ⟨c, false⟩ :: marks rest := by
  simp [marks, hc]

/-- The scanner resolves the backslashes as it goes. -/
theorem scan_eq_scanMarks (entry : Entry) (pairs : PairMap) (text : List Char) :
    scan entry pairs text = scanMarks entry pairs (marks text) := by
  fun_induction scan entry pairs text with
  | case1 entry pairs => rfl
  | case2 entry pairs => rfl
  | case3 entry pairs c rest ih =>
      rw [ih]
      simp [marks, scanMarks, Mark.isActive, Entry.pushMark]
  | case4 entry pairs rest ih =>
      rw [ih, marks_cons_of_ne (by decide)]
      simp [scanMarks, Mark.isActive, Entry.pushMark]
  | case5 entry pairs rest ih =>
      rw [ih, marks_cons_of_ne (by decide)]
      simp [scanMarks, Mark.isActive]
  | case6 entry pairs c rest hLast hEscape hEquals hComma ih =>
      have hPlain : c ≠ '=' ∧ c ≠ ',' := ⟨hEquals, hComma⟩
      rw [ih, marks_cons_of_ne (ne_backslash hLast hEscape)]
      simp [scanMarks, Mark.isActive, Entry.pushMark, hPlain]

theorem beforeEquals_cons (mark : Mark) (rest : List Mark) : beforeEquals (mark :: rest) =
    if mark.isActive '=' then [] else mark :: beforeEquals rest := by
  cases hMark : mark.isActive '=' <;> simp [beforeEquals, hMark]

theorem behindEquals?_cons (mark : Mark) (rest : List Mark) : behindEquals? (mark :: rest) =
    if mark.isActive '=' then some rest else behindEquals? rest := by
  cases hMark : mark.isActive '=' <;> simp [behindEquals?, hMark]

/-- Behind the first equals sign, all marks belong to the value. -/
theorem foldl_pushMark_value (key value : List Char) (segment : List Mark) :
    segment.foldl Entry.pushMark ⟨key, some value⟩ = ⟨key, some (value ++ unmarked segment)⟩ := by
  induction segment generalizing value with
  | nil => simp [unmarked]
  | cons mark rest ih =>
      have hPush : (⟨key, some value⟩ : Entry).pushMark mark = ⟨key, some (value ++ [mark.char])⟩ := by
        rw [Entry.pushMark]
        split
        · next hMark =>
            have hChar : mark.char = '=' := by
              rw [Mark.isActive, Bool.and_eq_true] at hMark
              exact of_decide_eq_true hMark.1
            rw [hChar]
            rfl
        · rfl
      rw [List.foldl_cons, hPush, ih, List.append_assoc]
      rfl

/-- A piece is read as what stands before and behind its first equals sign. -/
theorem foldl_pushMark_key (key : List Char) (segment : List Mark) :
    segment.foldl Entry.pushMark ⟨key, none⟩ =
      ⟨key ++ unmarked (beforeEquals segment), (behindEquals? segment).map unmarked⟩ := by
  induction segment generalizing key with
  | nil => simp [unmarked, beforeEquals, behindEquals?]
  | cons mark rest ih =>
      rw [List.foldl_cons, beforeEquals_cons, behindEquals?_cons]
      by_cases hMark : mark.isActive '=' = true
      · have hPush : (⟨key, none⟩ : Entry).pushMark mark = ⟨key, some []⟩ := if_pos hMark
        rw [hPush, foldl_pushMark_value, if_pos hMark, if_pos hMark]
        simp [unmarked]
      · have hPush : (⟨key, none⟩ : Entry).pushMark mark = ⟨key ++ [mark.char], none⟩ := if_neg hMark
        rw [hPush, ih, if_neg hMark, if_neg hMark]
        simp [unmarked]

/-- At the end of a segment, its pair is recorded. -/
theorem record_segment (segment : List Mark) (pairs : PairMap) :
    (segment.foldl Entry.pushMark .start).record pairs = pairs.insertAll (pair? segment).toList := by
  rw [Entry.start, foldl_pushMark_key, List.nil_append, pair?]
  cases behindEquals? segment with
  | none => rfl
  | some behind =>
      simp only [Entry.record, Option.map_some]
      split <;> rfl

theorem insertAll_segments (segment : List Mark) (others : List (List Mark)) (pairs : PairMap) :
    pairs.insertAll ((segment :: others).filterMap pair?) =
      ((segment.foldl Entry.pushMark .start).record pairs).insertAll (others.filterMap pair?) := by
  rw [record_segment, List.filterMap_cons]
  cases pair? segment <;> rfl

/-- The incomplete entry goes on with the first piece. All others are entries of their own. -/
theorem scanMarks_eq {marks segment : List Mark} {others : List (List Mark)}
    (hSplit : marks.splitOnP (Mark.isActive ',') = segment :: others) :
    scanMarks entry pairs marks =
      ((segment.foldl Entry.pushMark entry).record pairs).insertAll (others.filterMap pair?) := by
  induction marks generalizing entry pairs segment others with
  | nil =>
      rw [List.splitOnP_nil] at hSplit
      cases hSplit
      rfl
  | cons mark marks ih =>
      obtain ⟨first, rest, hRest⟩ :=
        List.exists_cons_of_ne_nil (List.splitOnP_ne_nil (Mark.isActive ',') marks)
      rw [List.splitOnP_cons_eq_if_modifyHead, hRest] at hSplit
      rw [scanMarks]
      split at hSplit
      · next hMark =>
          cases hSplit
          rw [if_pos hMark, ih hRest, insertAll_segments, List.foldl_nil]
      · next hMark =>
          cases hSplit
          rw [if_neg hMark, ih hRest, List.foldl_cons]

/-- The pairs of a text are those of its segments. -/
theorem parse_eq_meaning (text : String) : parse text = meaning text := by
  obtain ⟨segment, others, hSplit⟩ := List.exists_cons_of_ne_nil
    (List.splitOnP_ne_nil (Mark.isActive ',') (marks text.toList))
  rw [parse, scan_eq_scanMarks, scanMarks_eq hSplit, meaning, segments, hSplit,
    SortedMap.ofList, insertAll_segments]

/-- A comma behind a text has its meaning unless a backslash takes it. -/
theorem marks_append_comma (hEnd : endsActive front = false) (back : List Char) :
    marks (front ++ ',' :: back) = marks front ++ ⟨',', false⟩ :: marks back := by
  fun_induction endsActive front with
  | case1 => exact marks_cons_of_ne (by decide) back
  | case2 => cases hEnd
  | case3 c rest ih =>
      simp only [List.cons_append, marks]
      rw [ih hEnd]
  | case4 c rest hLast hEscape ih =>
      have hc := ne_backslash hLast hEscape
      rw [List.cons_append, marks_cons_of_ne hc, marks_cons_of_ne hc, ih hEnd, List.cons_append]

theorem segments_append_comma (hEnd : endsActive front = false) (back : List Char) :
    segments (front ++ ',' :: back) = segments front ++ segments back := by
  rw [segments, marks_append_comma hEnd, List.splitOnP_append_cons _ _ rfl]
  rfl

/-- Texts with an active comma between them mean what both mean, and the second one wins. -/
theorem meaning_append_comma {front back : String} (hEnd : endsActive front.toList = false) :
    meaning (front ++ "," ++ back) = (meaning front).overlay (meaning back) := by
  have hText : (front ++ "," ++ back).toList = front.toList ++ ',' :: back.toList := by
    simp
  rw [meaning, hText, segments_append_comma hEnd, List.filterMap_append, SortedMap.ofList_append]
  rfl

/-- A machine that reads one character after the other and knows whether the last one was a
backslash that marks the next. -/
structure Scanner where
  key : List Char
  value : List Char
  inValue : Bool
  escaped : Bool
  pairs : PairMap

namespace Scanner

def push (scanner : Scanner) (c : Char) : Scanner :=
  if scanner.inValue then { scanner with value := scanner.value ++ [c] }
  else { scanner with key := scanner.key ++ [c] }

/-- Records the entry and forgets its key and its value. -/
def flush (scanner : Scanner) : Scanner :=
  let key := trim scanner.key
  let pairs := if scanner.inValue && !key.isEmpty
    then scanner.pairs.insert (.ofList key) (.ofList (trim scanner.value)) else scanner.pairs
  { scanner with key := [], value := [], pairs }

def step (scanner : Scanner) (c : Char) : Scanner :=
  if scanner.escaped then { scanner.push c with escaped := false }
  else if c = '\\' then { scanner with escaped := true }
  else if c = '=' ∧ scanner.inValue = false then { scanner with inValue := true }
  else if c = ',' then { scanner.flush with inValue := false }
  else scanner.push c

/-- The machine with an incomplete entry. It has no value before the value begins. -/
def ofEntry (entry : Entry) (pairs : PairMap) (escaped : Bool) : Scanner :=
  ⟨entry.key, entry.value?.getD [], entry.value?.isSome, escaped, pairs⟩

/-- The pairs that the machine has recorded at the end of a text. -/
def run (text : String) : PairMap :=
  (text.toList.foldl step ⟨[], [], false, false, .empty⟩).flush.pairs

theorem push_ofEntry (entry : Entry) (pairs : PairMap) (escaped : Bool) (c : Char) :
    (ofEntry entry pairs escaped).push c = ofEntry (entry.push c) pairs escaped := by
  obtain ⟨key, value?⟩ := entry
  cases value? <;> rfl

theorem flush_ofEntry (entry : Entry) (pairs : PairMap) (escaped : Bool) :
    ((ofEntry entry pairs escaped).flush).pairs = entry.record pairs := by
  obtain ⟨key, value?⟩ := entry
  cases value? with
  | none => rfl
  | some value => cases hKey : (trim key).isEmpty <;> simp [ofEntry, flush, Entry.record, hKey]

/-- Any character behind a backslash belongs to the text. -/
theorem step_escaped (entry : Entry) (pairs : PairMap) (c : Char) :
    (ofEntry entry pairs true).step c = ofEntry (entry.push c) pairs false := by
  have hEscaped : (ofEntry entry pairs true).escaped = true := rfl
  rw [step, if_pos hEscaped, push_ofEntry]
  rfl

/-- An equals sign ends the key, or belongs to the value. -/
theorem step_equals (entry : Entry) (pairs : PairMap) :
    (ofEntry entry pairs false).step '=' = ofEntry entry.equals pairs false := by
  obtain ⟨key, value?⟩ := entry
  cases value? <;> rfl

/-- Nothing of an entry is left behind a comma. -/
theorem step_comma (entry : Entry) (pairs : PairMap) :
    (ofEntry entry pairs false).step ',' = ofEntry .start (entry.record pairs) false := by
  rw [← flush_ofEntry entry pairs false]
  rfl

theorem step_other {c : Char} (hEscape : c ≠ '\\') (hEquals : c ≠ '=') (hComma : c ≠ ',')
    (entry : Entry) (pairs : PairMap) :
    (ofEntry entry pairs false).step c = ofEntry (entry.push c) pairs false := by
  have hEscaped : ¬ (ofEntry entry pairs false).escaped = true := Bool.false_ne_true
  rw [step, if_neg hEscaped, if_neg hEscape, if_neg (fun hc => hEquals hc.1), if_neg hComma,
    push_ofEntry]

/-- From an incomplete entry on, the machine records what `scan` does. -/
theorem foldl_step (entry : Entry) (pairs : PairMap) (text : List Char) :
    (text.foldl step (ofEntry entry pairs false)).flush.pairs = scan entry pairs text := by
  fun_induction scan entry pairs text with
  | case1 entry pairs => exact flush_ofEntry entry pairs false
  | case2 entry pairs => exact flush_ofEntry entry pairs true
  | case3 entry pairs c rest ih =>
      have hEscape : (ofEntry entry pairs false).step '\\' = ofEntry entry pairs true := rfl
      rw [List.foldl_cons, hEscape, List.foldl_cons, step_escaped, ih]
  | case4 entry pairs rest ih => rw [List.foldl_cons, step_equals, ih]
  | case5 entry pairs rest ih => rw [List.foldl_cons, step_comma, ih]
  | case6 entry pairs c rest hLast hEscape hEquals hComma ih =>
      rw [List.foldl_cons, step_other (ne_backslash hLast hEscape) hEquals hComma, ih]

/-- The scanner finds the pairs that are parsed. -/
theorem run_eq (text : String) : run text = parse text :=
  foldl_step .start .empty text.toList

end Scanner

/-- Scanning a text once, character by character, finds the map that it means: the map of its
pieces between commas that have an equals sign and a key. So texts with a comma between them hold
the pairs of both, and those of the second text count, unless a backslash takes the comma. -/
theorem parse_splits :
    (∀ text, Scanner.run text = parse text ∧ parse text = meaning text) ∧
    ∀ front back : String, endsActive front.toList = false →
      parse (front ++ "," ++ back) = (parse front).overlay (parse back) := by
  refine ⟨fun text => ⟨Scanner.run_eq text, parse_eq_meaning text⟩, fun front back hEnd => ?_⟩
  rw [parse_eq_meaning, parse_eq_meaning, parse_eq_meaning, meaning_append_comma hEnd]

/-- The backslash at the end of the first text is itself marked, so that the comma ends the entry. -/
theorem parse_marked_backslash :
    endsActive "a=b\\\\".toList = false ∧
    parse "a=b\\\\,c=d\\,e" = (parse "a=b\\\\").overlay (parse "c=d\\,e") := by
  have hEnd : endsActive "a=b\\\\".toList = false := by decide
  exact ⟨hEnd, parse_splits.2 "a=b\\\\" "c=d\\,e" hEnd⟩

end DbClient.Setting.PairText
