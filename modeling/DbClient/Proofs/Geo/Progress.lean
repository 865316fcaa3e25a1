import DbClient.Proofs.Geo.Stepwise

/-! The machine that reads multi-polygons stays within its text. Items and the rounds of loops take
bytes, which bounds the rounds on all levels. Main statement: `scanText_stays_within`, by which no
text makes the machine leave the text, move backwards or run out of as many rounds as the text has
bytes, and it reads what `parse` reads. -/

namespace DbClient.MultiPolygon

open Text

namespace Scan

variable {α : Type} {text middle rest : List Char} {budget : Nat} {scan between next : Scan α}
  {shape other : MultiPolygon α} {more : Nat}

/-- The machine read something, and got to where a rest is left with a multi-polygon. It noted two
spans for each round, and some more. -/
structure ReadTo (text : List Char) (scan next : Scan α) (shape : MultiPolygon α)
    (rest : List Char) (more : Nat) : Prop extends next.Stands text rest where
  shape_eq : next.shape = shape
  more_rounds : scan.rounds ≤ next.rounds
  spans_length : next.spans.length + 2 * scan.rounds = scan.spans.length + 2 * next.rounds + more
  position_lt : scan.position < next.position

/-- A machine that moved on has read nothing that adds to the multi-polygon. -/
theorem MovedTo.readTo (hMoved : MovedTo text scan next rest)
    (hForward : scan.position < next.position) : ReadTo text scan next scan.shape rest 0 where
  toStands := hMoved.toStands
  shape_eq := hMoved.shape_eq
  more_rounds := Nat.le_of_eq hMoved.rounds_eq.symm
  spans_length := by rw [hMoved.rounds_eq, hMoved.spans_eq]; rfl
  position_lt := hForward

/-- What is read behind a move is read from in front of it. -/
theorem MovedTo.trans_readTo (hMoved : MovedTo text scan between middle)
    (hRead : ReadTo text between next shape rest more) : ReadTo text scan next shape rest more where
  toStands := hRead.toStands
  shape_eq := hRead.shape_eq
  more_rounds := hMoved.rounds_eq ▸ hRead.more_rounds
  spans_length := hMoved.rounds_eq ▸ hMoved.spans_eq ▸ hRead.spans_length
  position_lt := Nat.lt_of_le_of_lt hMoved.position_le hRead.position_lt

/-- A move behind what was read belongs to it. -/
theorem ReadTo.trans_movedTo (hRead : ReadTo text scan between shape middle more)
    (hMoved : MovedTo text between next rest) : ReadTo text scan next shape rest more where
  toStands := hMoved.toStands
  shape_eq := hMoved.shape_eq.trans hRead.shape_eq
  more_rounds := hMoved.rounds_eq ▸ hRead.more_rounds
  spans_length := by rw [hMoved.rounds_eq, hMoved.spans_eq]; exact hRead.spans_length
  position_lt := Nat.lt_of_lt_of_le hRead.position_lt hMoved.position_le

/-- What is read in two steps is read in one. -/
theorem ReadTo.trans (hFirst : ReadTo text scan between other middle more)
    (hSecond : ReadTo text between next shape rest 0) : ReadTo text scan next shape rest more where
  toStands := hSecond.toStands
  shape_eq := hSecond.shape_eq
  more_rounds := Nat.le_trans hFirst.more_rounds hSecond.more_rounds
  spans_length := by
    have hBetween := hFirst.spans_length
    have hNext := hSecond.spans_length
    omega
  position_lt := Nat.lt_trans hFirst.position_lt hSecond.position_lt

/-- Noting the span of what was read makes it one more. -/
theorem ReadTo.span (hRead : ReadTo text scan next shape rest more) :
    ReadTo text scan (next.span scan.position) shape rest (more + 1) where
  toStands := hRead.toStands.span hRead.position_lt
  shape_eq := hRead.shape_eq
  more_rounds := hRead.more_rounds
  spans_length := by
    rw [Scan.span, List.length_cons, Nat.add_right_comm, hRead.spans_length, Nat.add_assoc]
  position_lt := hRead.position_lt

theorem ReadTo.build (hRead : ReadTo text scan next shape rest more)
    (add : MultiPolygon α → MultiPolygon α) :
    ReadTo text scan (next.build add) (add shape) rest more :=
  ⟨hRead.toStands.build add, congrArg add hRead.shape_eq, hRead.more_rounds, hRead.spans_length,
    hRead.position_lt⟩

/-- At its end, a round has noted the span of its item and its own. -/
theorem ReadTo.of_begun (hRead : ReadTo text scan.begun next shape rest 2) :
    ReadTo text scan next shape rest 0 where
  toStands := hRead.toStands
  shape_eq := hRead.shape_eq
  more_rounds := Nat.le_of_succ_le hRead.more_rounds
  spans_length := Nat.add_right_cancel (m := 2) hRead.spans_length
  position_lt := hRead.position_lt

/-- In every sound scan, a step of the machine does what a reader does with the rest. The machine
may have left the blanks behind already. -/
def Implements (text : List Char) (budget : Nat) (step : Scan α → Except (Stop α) (Scan α))
    (reader : Reader (MultiPolygon α)) : Prop :=
  ∀ scan left rest, scan.Stands text left → trimStart left = trimStart rest →
    Agrees text budget (fun next read => ReadTo text scan next read.1 read.2.val 0) (step scan)
      (reader scan.shape rest)

variable {item : Scan α → Except (Stop α) (Scan α)} {reader : Reader (MultiPolygon α)}

/-- A round begins behind a bracket or a comma, so there are fewer rounds before it than bytes. This
carries the bounds of the budget and of the limit through the loop. -/
theorem agrees_items (hItem : Implements text budget item reader) (limit : Nat) {scan : Scan α}
    {left rest : List Char} (hStands : scan.Stands text left)
    (hLeft : trimStart left = trimStart rest) (hRounds : scan.rounds < scan.position)
    (hLimit : budget ≤ limit + scan.rounds) :
    Agrees text budget (fun next read => ReadTo text scan next read.1 read.2.val 0)
      (items text budget item limit scan) (readItems reader scan.shape rest) := by
  induction limit generalizing scan left rest with
  | zero =>
      have hSize := hStands.position_le
      exact .exhausted hStands.toIsSound (by omega)
  | succ limit ih =>
      rw [items, readItems, beginRound]
      dsimp only
      by_cases hBudget : scan.rounds < budget
      · rw [if_pos hBudget, pure_bind]
        refine (hItem scan.begun _ _ (hStands.begun hRounds) hLeft).bind ?_
        rintro read ⟨shape, middle, hMiddle⟩ hRead
        obtain rfl := hRead.shape_eq
        have hSpan : ReadTo text scan.begun (read.span scan.position) read.shape middle 1 :=
          hRead.span
        dsimp only
        cases hClose : eat? ']' middle with
        | some closed =>
            obtain ⟨next, hEat, hNext, -⟩ :=
              exists_eat_eq_true hSpan.toStands (eat?_eq_some_iff.mp hClose)
            rw [hEat, pure_bind]
            exact .done (hSpan.trans_movedTo hNext).span.of_begun
        | none =>
            obtain ⟨between, hEat, hBetween⟩ :=
              exists_eat_eq_false hSpan.toStands (eat?_eq_none_iff.mp hClose)
            rw [hEat, pure_bind]
            refine (agrees_expect hBetween.toStands (trimStart_trimStart middle) ',').bind ?_
            rintro next ⟨behind, hBehind⟩ ⟨hNext, hComma⟩
            have hMoved := hBetween.trans hNext
            have hRound := (hSpan.trans_movedTo hMoved).span
            -- The comma is the byte that pays for the next round.
            have hFewer : next.rounds < next.position := hMoved.rounds_eq ▸
              Nat.lt_of_le_of_lt (Nat.le_trans hSpan.rounds_le hBetween.position_le) hComma
            have hMore : scan.rounds + 1 ≤ next.rounds := hRound.more_rounds
            have hShape : next.shape = read.shape := hRound.shape_eq
            dsimp only
            rw [← hShape, ← bind_pure (items text budget item limit _)]
            refine (ih hRound.toStands rfl hFewer (?_ : budget ≤ limit + next.rounds)).bind ?_
            · omega
            · rintro final ⟨shape, rest, hRest⟩ hFinal
              exact .done (hRound.trans hFinal).of_begun
      · rw [if_neg hBudget]
        have hSize := hStands.position_le
        exact .exhausted hStands.toIsSound (by omega)

/-- If a step implements a reader of items, the loop implements the reader of their lists. -/
theorem Implements.list (hItem : Implements text budget item reader) :
    Implements text budget (list text budget item) (readList reader) := by
  intro scan left rest hStands hLeft
  rw [Scan.list, readList]
  refine (agrees_expect hStands hLeft '[').bind ?_
  rintro opened ⟨inner, hInner⟩ ⟨hOpened, hForward⟩
  dsimp only
  cases hClose : eat? ']' inner with
  | some closed =>
      obtain ⟨next, hEat, hNext, -⟩ :=
        exists_eat_eq_true hOpened.toStands (eat?_eq_some_iff.mp hClose)
      rw [hEat, pure_bind]
      exact .done ((hOpened.readTo hForward).trans_movedTo hNext)
  | none =>
      obtain ⟨between, hEat, hBetween⟩ :=
        exists_eat_eq_false hOpened.toStands (eat?_eq_none_iff.mp hClose)
      have hMoved := hOpened.trans hBetween
      have hRounds : between.rounds < between.position :=
        hMoved.rounds_eq ▸ Nat.lt_of_le_of_lt hStands.rounds_le
          (Nat.lt_of_lt_of_le hForward hBetween.position_le)
      rw [hEat, pure_bind, ← hMoved.shape_eq]
      dsimp only
      rw [if_neg (by decide), ← bind_pure (items text budget item budget _)]
      refine (agrees_items hItem budget hBetween.toStands (trimStart_trimStart inner) hRounds
        (Nat.le_add_right _ _)).bind ?_
      rintro final ⟨shape, rest, hRest⟩ hFinal
      exact .done (hMoved.trans_readTo hFinal)

/-- The machine reads points as the reader does. -/
theorem implements_point (format : CoordinateText α) :
    Implements text budget (point text format) (readPoint format) := by
  intro scan left rest hStands hLeft
  rw [point, readPoint]
  refine (agrees_expect hStands hLeft '(').bind ?_
  rintro opened ⟨inner, hInner⟩ ⟨hOpened, hForward⟩
  refine (agrees_number hOpened.toStands format).bind ?_
  rintro ⟨x, first⟩ ⟨_, middle, hMiddle⟩ ⟨rfl, hFirst⟩
  refine (agrees_expect hFirst.toStands rfl ',').bind ?_
  rintro between ⟨behind, hBehind⟩ ⟨hBetween, -⟩
  refine (agrees_number hBetween.toStands format).bind ?_
  rintro ⟨y, second⟩ ⟨_, last, hLast⟩ ⟨rfl, hSecond⟩
  refine (agrees_expect hSecond.toStands rfl ')').bind ?_
  rintro closed ⟨rest, hRest⟩ ⟨hClosed, -⟩
  have hMoved := ((hFirst.trans hBetween).trans hSecond).trans hClosed
  exact .done (((hOpened.readTo hForward).trans_movedTo hMoved).build (·.pushPoint ⟨x, y⟩))

theorem Implements.closing (hReader : Implements text budget item reader)
    (close : MultiPolygon α → MultiPolygon α) :
    Implements text budget
      (fun scan => do
        let scan ← item scan
        return scan.build close)
      (fun shape text => do
        let (shape, rest) ← reader shape text
        return (close shape, rest)) := by
  intro scan left rest hStands hLeft
  refine (hReader scan left rest hStands hLeft).bind ?_
  rintro next ⟨shape, behind⟩ hNext
  exact .done (hNext.build close)

theorem implements_ring (format : CoordinateText α) :
    Implements text budget (ring text format budget) (readRing format) :=
  (implements_point format).list.closing closeRing

theorem implements_polygon (format : CoordinateText α) :
    Implements text budget (polygon text format budget) (readPolygon format) :=
  (implements_ring format).list.closing closePolygon

/-- The machine reads a whole text as the reader does, and is in a sound scan then. -/
theorem agrees_whole (text : List Char) (format : CoordinateText α) (budget : Nat) :
    Agrees text budget
      (fun scan shape => scan.IsSound text ∧ scan.shape = shape ∧
        scan.spans.length = 2 * scan.rounds)
      (whole text format budget) (read format text) := by
  rw [whole, read]
  refine ((implements_polygon format).list start text text (stands_start text) rfl).bind ?_
  rintro next ⟨shape, rest, hRest⟩ hNext
  obtain ⟨final, hSkip, hFinal⟩ := exists_skipBlanks_eq hNext.toStands
  have hLeft : final.position + byteSize (trimStart rest) = byteSize text := hFinal.position_add
  have hEnd : final.position = byteSize text ↔ isAllBlank rest = true := by
    rw [← trimStart_eq_nil_iff, ← byteSize_eq_zero_iff]
    omega
  rw [hSkip, pure_bind]
  dsimp only
  by_cases hBlank : isAllBlank rest = true
  · rw [if_pos (hEnd.mpr hBlank), if_pos hBlank]
    have hSpans : final.spans.length = 2 * final.rounds := by
      rw [hFinal.spans_eq, hFinal.rounds_eq]
      exact hNext.spans_length.trans (Nat.zero_add _)
    exact .done ⟨hFinal.toIsSound, hFinal.shape_eq.trans hNext.shape_eq, hSpans⟩
  · rw [if_neg (mt hEnd.mp hBlank), if_neg hBlank, refuse_eq hFinal.toStands]
    exact .refused hFinal.toIsSound

end Scan

/-- Wherever a machine is while it reads a text, it is between two characters of the text or at one
of its ends, and it never moves backwards. Every item that it reads, and every round of a loop,
takes some bytes, so that there are at most as many rounds as bytes, on all levels together; of a
text that was read, the spans of all rounds and of all their items are noted. If its budget is the
size of the text, the machine never runs out of it, and it reads what `parse` reads or finds the
same error. -/
theorem scanText_stays_within (text : String) (budget : Nat) :
    (∀ position ∈ (Scan.last (scanText budget text)).trace,
      position ≤ byteSize text.toList ∧ Scan.IsBoundary text.toList position) ∧
    (Scan.last (scanText budget text)).trace.Pairwise (· ≥ ·) ∧
    (∀ span ∈ (Scan.last (scanText budget text)).spans, span.1 < span.2) ∧
    (Scan.last (scanText budget text)).rounds ≤ byteSize text.toList ∧
    (∀ scan, scanText budget text = .ok scan → scan.spans.length = 2 * scan.rounds) ∧
    (∀ scan, scanText budget text ≠ .error ⟨.cut, scan⟩) ∧
    (byteSize text.toList ≤ budget →
      Scan.answer (scanText budget text) = (parse text).mapError .refused) := by
  have hAgrees := Scan.agrees_whole text.toList .binary64 budget
  have hSound : (Scan.last (scanText budget text)).IsSound text.toList :=
    hAgrees.isSound fun _ _ hRel => hRel.1
  refine ⟨?_, hSound.forward, hSound.advances, ?_, ?_, fun scan => hAgrees.ne_cut, ?_⟩
  · intro position hPosition
    have hBoundary := hSound.boundary position hPosition
    exact ⟨hBoundary.le, hBoundary⟩
  · exact Nat.le_trans hSound.rounds_le hSound.position_le
  · intro scan hScan
    obtain ⟨_, -, -, hSpans⟩ := hAgrees.exists_of_ok hScan
    exact hSpans
  · exact hAgrees.answer_eq fun _ _ hRel => hRel.2.1

/-- The text ends behind a blank of three bytes, where a coordinate should be. -/
theorem scanText_truncated :
    byteSize "[[[(1,\u3000".toList ≤ 9 ∧
    Scan.answer (scanText 9 "[[[(1,\u3000") = .error (.refused (.numberFormat "")) ∧
    (Scan.last (scanText 9 "[[[(1,\u3000")).rounds ≤ 9 := by
  have hSize : byteSize "[[[(1,\u3000".toList = 9 := by decide
  have hError : parse "[[[(1,\u3000" = .error (.numberFormat "") := by decide +kernel
  obtain ⟨-, -, -, hRounds, -, -, hAnswer⟩ := scanText_stays_within "[[[(1,\u3000" 9
  rw [hSize] at hRounds
  rw [hError] at hAnswer
  exact ⟨Nat.le_of_eq hSize, hAnswer (Nat.le_of_eq hSize), hRounds⟩

end DbClient.MultiPolygon
