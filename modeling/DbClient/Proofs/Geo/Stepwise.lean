import DbClient.Proofs.Geo.FirstOffence

/-! Multi-polygons read in the steps of a machine, which only knows how many bytes of a text are
behind it, cuts the text there, and has a budget for the rounds of its loops. A scan keeps all
positions of the machine. Main statements: `agrees_expect` and `agrees_number`, by which a step of
a sound scan does what a reader does with the rest of the text. -/

namespace DbClient.MultiPolygon

open Text

variable {α : Type}

/-- Where a machine is in a text, and what it went through. -/
structure Scan (α : Type) where
  /-- What was read so far. -/
  shape : MultiPolygon α
  /-- The number of bytes in front of what is left. -/
  position : Nat
  /-- The positions before, the latest one first. -/
  earlier : List Nat
  /-- How many rounds of loops began, on all levels. -/
  rounds : Nat
  /-- Where items that were read, and rounds that ended, have their start and their end. -/
  spans : List (Nat × Nat)

/-- Why a machine stops before the end of a text. -/
inductive Halt where
  /-- The text is malformed. -/
  | refused (error : Error)
  /-- A cut inside of a character or behind the end. -/
  | cut
  /-- A round is beyond the budget. -/
  | exhausted
  deriving DecidableEq

/-- Why a machine stopped, and where. -/
structure Stop (α : Type) where
  cause : Halt
  scan : Scan α

namespace Scan

def start : Scan α := ⟨empty, 0, [], 0, []⟩

/-- All positions, the latest one first. -/
def trace (scan : Scan α) : List Nat :=
  scan.position :: scan.earlier

/-- Moves on by a number of bytes. -/
def move (scan : Scan α) (count : Nat) : Scan α :=
  { scan with position := scan.position + count, earlier := scan.trace }

/-- Notes that what began at a position ends here. -/
def span (scan : Scan α) (first : Nat) : Scan α :=
  { scan with spans := (first, scan.position) :: scan.spans }

/-- The scan in a round that begins here. -/
def begun (scan : Scan α) : Scan α :=
  { scan with rounds := scan.rounds + 1 }

/-- Adds to what was read so far. -/
def build (scan : Scan α) (add : MultiPolygon α → MultiPolygon α) : Scan α :=
  { scan with shape := add scan.shape }

/-- The text has something else here than what is expected. -/
def refuse (scan : Scan α) (token : String) : Stop α :=
  ⟨.refused (.invalidInput (placeText token scan.position)), scan⟩

/-- What is left of the text. -/
def left (text : List Char) (scan : Scan α) : Except (Stop α) (List Char) :=
  match cutBytes? scan.position text with
  | some (_, rest) => return rest
  | none => throw ⟨.cut, scan⟩

def skipBlanks (text : List Char) (scan : Scan α) : Except (Stop α) (Scan α) := do
  let rest ← left text scan
  return scan.move (byteSize rest - byteSize (trimStart rest))

/-- Takes blanks off, and a character if it is there. -/
def eat (text : List Char) (c : Char) (scan : Scan α) : Except (Stop α) (Bool × Scan α) := do
  let scan ← skipBlanks text scan
  let rest ← left text scan
  if rest.head? = some c then return (true, scan.move c.utf8Size) else return (false, scan)

def expect (text : List Char) (c : Char) (scan : Scan α) : Except (Stop α) (Scan α) := do
  let (found, scan) ← eat text c scan
  if found then return scan else throw (scan.refuse ("'" ++ .ofList [c] ++ "'"))

/-- Reads a coordinate, which is cut off in front of the next delimiter or at the end. -/
def number (text : List Char) (format : CoordinateText α) (scan : Scan α) :
    Except (Stop α) (α × Scan α) := do
  let scan ← skipBlanks text scan
  let rest ← left text scan
  let length := byteSize (rest.takeWhile (!endsNumber ·))
  match cutBytes? length rest with
  | none => throw ⟨.cut, scan⟩
  | some (token, _) =>
    match format.read? (trim token) with
    | none => throw ⟨.refused (.numberFormat (.ofList (trim token))), scan⟩
    | some x => return (x, scan.move length)

/-- Begins a round, if there is one left in the budget that all loops share. -/
def beginRound (budget : Nat) (scan : Scan α) : Except (Stop α) (Scan α) :=
  if scan.rounds < budget then return scan.begun else throw ⟨.exhausted, scan⟩

/-- The loop over the elements of a list. It has at most as many rounds as its own limit, too. -/
def items (text : List Char) (budget : Nat) (item : Scan α → Except (Stop α) (Scan α)) :
    Nat → Scan α → Except (Stop α) (Scan α)
  | 0, scan => throw ⟨.exhausted, scan⟩
  | limit + 1, scan => do
    let first := scan.position
    let scan ← beginRound budget scan
    let scan ← item scan
    let (closed, scan) ← eat text ']' (scan.span first)
    if closed then return scan.span first
    else
      let scan ← expect text ',' scan
      items text budget item limit (scan.span first)

def list (text : List Char) (budget : Nat) (item : Scan α → Except (Stop α) (Scan α))
    (scan : Scan α) : Except (Stop α) (Scan α) := do
  let scan ← expect text '[' scan
  let (closed, scan) ← eat text ']' scan
  if closed then return scan else items text budget item budget scan

def point (text : List Char) (format : CoordinateText α) (scan : Scan α) :
    Except (Stop α) (Scan α) := do
  let scan ← expect text '(' scan
  let (x, scan) ← number text format scan
  let scan ← expect text ',' scan
  let (y, scan) ← number text format scan
  let scan ← expect text ')' scan
  return scan.build (·.pushPoint ⟨x, y⟩)

def ring (text : List Char) (format : CoordinateText α) (budget : Nat) (scan : Scan α) :
    Except (Stop α) (Scan α) := do
  let scan ← list text budget (point text format) scan
  return scan.build closeRing

def polygon (text : List Char) (format : CoordinateText α) (budget : Nat) (scan : Scan α) :
    Except (Stop α) (Scan α) := do
  let scan ← list text budget (ring text format budget) scan
  return scan.build closePolygon

def whole (text : List Char) (format : CoordinateText α) (budget : Nat) :
    Except (Stop α) (Scan α) := do
  let scan ← list text budget (polygon text format budget) start
  let scan ← skipBlanks text scan
  if scan.position = byteSize text then return scan else throw (scan.refuse "end of input")

/-- The scan at the end, wherever a machine stopped. -/
def last : Except (Stop α) (Scan α) → Scan α
  | .ok scan => scan
  | .error stop => stop.scan

/-- What was read, or why nothing was. -/
def answer : Except (Stop α) (Scan α) → Except Halt (MultiPolygon α)
  | .ok scan => .ok scan.shape
  | .error stop => .error stop.cause

/-! ### Where a scan stands -/

variable {text rest : List Char} {budget : Nat} {scan next : Scan α}

/-- A position between two characters of a text, or at one of its ends. -/
def IsBoundary (text : List Char) (position : Nat) : Prop :=
  ∃ front rest, front ++ rest = text ∧ byteSize front = position

/-- The machine never left the text and never moved backwards, whatever it read or finished took
some bytes, and there were not more rounds than bytes. -/
structure IsSound (text : List Char) (scan : Scan α) : Prop where
  boundary : ∀ position ∈ scan.trace, IsBoundary text position
  forward : scan.trace.Pairwise (· ≥ ·)
  advances : ∀ span ∈ scan.spans, span.1 < span.2
  rounds_le : scan.rounds ≤ scan.position

/-- A sound scan in front of a rest of the text. -/
structure Stands (text : List Char) (scan : Scan α) (rest : List Char) : Prop extends
    scan.IsSound text where
  isAt : ∃ front, front ++ rest = text ∧ byteSize front = scan.position

theorem IsBoundary.le {position : Nat} (hBoundary : IsBoundary text position) :
    position ≤ byteSize text := by
  obtain ⟨front, rest, rfl, rfl⟩ := hBoundary
  rw [byteSize_append]
  exact Nat.le_add_right _ _

/-- At first, the whole text is left. -/
theorem stands_start (text : List Char) : (start : Scan α).Stands text text where
  boundary := List.forall_mem_singleton.mpr ⟨[], text, rfl, rfl⟩
  forward := List.pairwise_singleton _ _
  advances := List.forall_mem_nil _
  rounds_le := Nat.le_refl 0
  isAt := ⟨[], rfl, rfl⟩

theorem IsSound.position_le (hSound : scan.IsSound text) : scan.position ≤ byteSize text :=
  (hSound.boundary _ List.mem_cons_self).le

/-- What is behind the machine and what is left are the whole text. -/
theorem Stands.position_add (hStands : scan.Stands text rest) :
    scan.position + byteSize rest = byteSize text := by
  obtain ⟨front, rfl, hFront⟩ := hStands.isAt
  rw [byteSize_append, hFront]

/-- The machine moves over a piece of the text. -/
theorem Stands.move {piece : List Char} (hStands : scan.Stands text (piece ++ rest)) :
    (scan.move (byteSize piece)).Stands text rest := by
  obtain ⟨front, hText, hFront⟩ := hStands.isAt
  have hAt : (front ++ piece) ++ rest = text ∧
      byteSize (front ++ piece) = scan.position + byteSize piece := by
    rw [List.append_assoc, byteSize_append, hFront]
    exact ⟨hText, rfl⟩
  refine ⟨⟨?_, ?_, hStands.advances, Nat.le_add_right_of_le hStands.rounds_le⟩, _, hAt⟩
  · exact List.forall_mem_cons.mpr ⟨⟨_, _, hAt⟩, hStands.boundary⟩
  · refine List.pairwise_cons.mpr ⟨?_, hStands.forward⟩
    intro position hPosition
    rcases List.mem_cons.mp hPosition with rfl | hEarlier
    · exact Nat.le_add_right _ _
    · exact Nat.le_add_right_of_le ((List.pairwise_cons.mp hStands.forward).1 position hEarlier)

theorem Stands.span {first : Nat} (hStands : scan.Stands text rest)
    (hFirst : first < scan.position) : (scan.span first).Stands text rest :=
  ⟨⟨hStands.boundary, hStands.forward,
    List.forall_mem_cons.mpr ⟨hFirst, hStands.advances⟩, hStands.rounds_le⟩, hStands.isAt⟩

theorem Stands.begun (hStands : scan.Stands text rest) (hRounds : scan.rounds < scan.position) :
    scan.begun.Stands text rest :=
  ⟨⟨hStands.boundary, hStands.forward, hStands.advances, hRounds⟩, hStands.isAt⟩

theorem Stands.build (hStands : scan.Stands text rest) (add : MultiPolygon α → MultiPolygon α) :
    (scan.build add).Stands text rest :=
  ⟨⟨hStands.boundary, hStands.forward, hStands.advances, hStands.rounds_le⟩, hStands.isAt⟩

/-- A cut where a machine stands never fails, and gives what is left. -/
theorem left_eq (hStands : scan.Stands text rest) : left text scan = pure rest := by
  obtain ⟨front, hText, hFront⟩ := hStands.isAt
  rw [left, cutBytes?_eq_some_iff.mpr ⟨hFront, hText⟩]

/-! ### What the machine does -/

variable {β γ δ ζ : Type}

/-- A step of the machine comes to a result that is related to that of a reader, or it stops for the
same fault, unless its budget is less than the text. -/
inductive Agrees (text : List Char) (budget : Nat) (Rel : β → γ → Prop) :
    Except (Stop α) β → Except ReadFault γ → Prop where
  | done {value : β} {result : γ} (hRel : Rel value result) :
      Agrees text budget Rel (.ok value) (.ok result)
  | refused {scan : Scan α} {fault : ReadFault} (hSound : scan.IsSound text) :
      Agrees text budget Rel (.error ⟨.refused (fault.toError text), scan⟩) (.error fault)
  | exhausted {scan : Scan α} {result : Except ReadFault γ} (hSound : scan.IsSound text)
      (hBudget : budget < byteSize text) : Agrees text budget Rel (.error ⟨.exhausted, scan⟩) result

/-- Steps that agree with readers agree with them one after the other. -/
theorem Agrees.bind {Rel : β → γ → Prop} {Rel' : δ → ζ → Prop} {step : Except (Stop α) β}
    {result : Except ReadFault γ} {next : β → Except (Stop α) δ} {others : γ → Except ReadFault ζ}
    (hAgrees : Agrees text budget Rel step result)
    (hNext : ∀ value found, Rel value found → Agrees text budget Rel' (next value) (others found)) :
    Agrees text budget Rel' (step >>= next) (result >>= others) := by
  cases hAgrees with
  | done hRel => exact hNext _ _ hRel
  | refused hSound => exact .refused hSound
  | exhausted hSound hBudget => exact .exhausted hSound hBudget

theorem Agrees.exists_of_ok {Rel : β → γ → Prop} {step : Except (Stop α) β}
    {result : Except ReadFault γ} {value : β} (hAgrees : Agrees text budget Rel step result)
    (hStep : step = .ok value) : ∃ found, Rel value found := by
  subst hStep
  cases hAgrees with
  | done hRel => exact ⟨_, hRel⟩

/-- Wherever a step ends, it ends in a sound scan. -/
theorem Agrees.isSound {Rel : Scan α → γ → Prop} {step : Except (Stop α) (Scan α)}
    {result : Except ReadFault γ} (hAgrees : Agrees text budget Rel step result)
    (hRel : ∀ scan value, Rel scan value → scan.IsSound text) : (last step).IsSound text := by
  cases hAgrees with
  | done hDone => exact hRel _ _ hDone
  | refused hSound => exact hSound
  | exhausted hSound hBudget => exact hSound

/-- A step never cuts a text inside of a character or behind its end. -/
theorem Agrees.ne_cut {Rel : β → γ → Prop} {step : Except (Stop α) β} {result : Except ReadFault γ}
    (hAgrees : Agrees text budget Rel step result) : step ≠ .error ⟨.cut, scan⟩ := by
  rintro rfl
  cases hAgrees

/-- A budget of the size of the text is never exhausted. -/
theorem Agrees.answer_eq {Rel : Scan α → MultiPolygon α → Prop} {step : Except (Stop α) (Scan α)}
    {result : Except ReadFault (MultiPolygon α)} (hAgrees : Agrees text budget Rel step result)
    (hRel : ∀ scan shape, Rel scan shape → scan.shape = shape) (hBudget : byteSize text ≤ budget) :
    answer step = (result.mapError (·.toError text)).mapError .refused := by
  cases hAgrees with
  | done hDone => exact congrArg Except.ok (hRel _ _ hDone)
  | refused hSound => rfl
  | exhausted hSound hLess => exact absurd hLess (Nat.not_lt.mpr hBudget)

/-- The machine moved on to where a rest is left, and did nothing else. -/
structure MovedTo (text : List Char) (scan next : Scan α) (rest : List Char) : Prop extends
    next.Stands text rest where
  shape_eq : next.shape = scan.shape
  rounds_eq : next.rounds = scan.rounds
  spans_eq : next.spans = scan.spans
  position_le : scan.position ≤ next.position

theorem MovedTo.trans {between : Scan α} {behind : List Char}
    (hFirst : MovedTo text scan between rest) (hSecond : MovedTo text between next behind) :
    MovedTo text scan next behind :=
  ⟨hSecond.toStands, hSecond.shape_eq.trans hFirst.shape_eq,
    hSecond.rounds_eq.trans hFirst.rounds_eq, hSecond.spans_eq.trans hFirst.spans_eq,
    Nat.le_trans hFirst.position_le hSecond.position_le⟩

theorem Stands.movedTo_move {piece : List Char} (hStands : scan.Stands text (piece ++ rest)) :
    MovedTo text scan (scan.move (byteSize piece)) rest :=
  ⟨hStands.move, rfl, rfl, rfl, Nat.le_add_right _ _⟩

/-- The machine moves over all blanks. -/
theorem exists_skipBlanks_eq (hStands : scan.Stands text rest) :
    ∃ next, skipBlanks text scan = pure next ∧ MovedTo text scan next (trimStart rest) := by
  obtain ⟨blanks, hBlanks, hRest⟩ := exists_blanks rest
  have hSize : byteSize rest - byteSize (trimStart rest) = byteSize blanks := by
    conv => lhs; rw [hRest, trimStart_append hBlanks, byteSize_append, trimStart_trimStart]
    omega
  refine ⟨scan.move (byteSize blanks), ?_, (hRest ▸ hStands).movedTo_move⟩
  rw [skipBlanks, left_eq hStands, pure_bind, hSize]

/-- A character that is there is taken, which takes some bytes. -/
theorem exists_eat_eq_true {c : Char} {behind : List Char} (hStands : scan.Stands text rest)
    (hText : trimStart rest = c :: behind) :
    ∃ next, eat text c scan = pure (true, next) ∧ MovedTo text scan next behind ∧
      scan.position < next.position := by
  obtain ⟨between, hSkip, hBetween⟩ := exists_skipBlanks_eq hStands
  rw [hText] at hBetween
  have hSize : byteSize [c] = c.utf8Size := Nat.zero_add _
  have hMove : MovedTo text between (between.move (byteSize [c])) behind :=
    hBetween.toStands.movedTo_move
  have hLess : between.position < between.position + c.utf8Size :=
    Nat.lt_add_of_pos_right c.utf8Size_pos
  refine ⟨between.move c.utf8Size, ?_, hBetween.trans (hSize ▸ hMove),
    Nat.lt_of_le_of_lt hBetween.position_le hLess⟩
  rw [eat, hSkip, pure_bind, left_eq hBetween.toStands, pure_bind, List.head?_cons, if_pos rfl]

/-- Where a character is not there, only blanks are taken. -/
theorem exists_eat_eq_false {c : Char} (hStands : scan.Stands text rest)
    (hText : ∀ behind, trimStart rest ≠ c :: behind) :
    ∃ next, eat text c scan = pure (false, next) ∧ MovedTo text scan next (trimStart rest) := by
  obtain ⟨next, hSkip, hNext⟩ := exists_skipBlanks_eq hStands
  have hHead : (trimStart rest).head? ≠ some c := by
    intro hHead
    obtain ⟨behind, hBehind⟩ := List.head?_eq_some_iff.mp hHead
    exact hText behind hBehind
  refine ⟨next, ?_, hNext⟩
  rw [eat, hSkip, pure_bind, left_eq hNext.toStands, pure_bind, if_neg hHead]

/-- What a machine says about a place is what is said about the rest of the text there. -/
theorem refuse_eq (hStands : scan.Stands text rest) (token : String) :
    scan.refuse token = ⟨.refused ((ReadFault.expected token rest).toError text), scan⟩ := by
  have hPosition : byteSize text - byteSize rest = scan.position := by
    have := hStands.position_add
    omega
  rw [refuse, ReadFault.toError, hPosition, placeText]

/-- The machine may have left the blanks behind already. -/
theorem agrees_expect {left : List Char} (hStands : scan.Stands text left)
    (hLeft : trimStart left = trimStart rest) (c : Char) :
    Agrees text budget
      (fun next behind => MovedTo text scan next behind.val ∧ scan.position < next.position)
      (expect text c scan) (MultiPolygon.expect c rest) := by
  rw [expect, MultiPolygon.expect]
  cases hEat : eat? c rest with
  | some behind =>
      obtain ⟨next, hNext, hMoved⟩ :=
        exists_eat_eq_true hStands (hLeft.trans (eat?_eq_some_iff.mp hEat))
      rw [hNext, pure_bind]
      exact .done hMoved
  | none =>
      obtain ⟨next, hNext, hMoved⟩ :=
        exists_eat_eq_false hStands (hLeft ▸ eat?_eq_none_iff.mp hEat)
      rw [hNext, pure_bind]
      dsimp only
      rw [refuse_eq hMoved.toStands, hLeft]
      exact .refused hMoved.toIsSound

/-- A coordinate is cut off where a reader cuts it off. -/
theorem agrees_number (hStands : scan.Stands text rest) (format : CoordinateText α) :
    Agrees text budget (fun next behind => next.1 = behind.1 ∧
      MovedTo text scan next.2 behind.2.val)
      (number text format scan) (readNumber format rest) := by
  obtain ⟨between, hSkip, hBetween⟩ := exists_skipBlanks_eq hStands
  have hSplit : (trimStart rest).takeWhile (!endsNumber ·) ++
      (trimStart rest).dropWhile (!endsNumber ·) = trimStart rest := List.takeWhile_append_dropWhile
  have hMove := (hSplit.symm ▸ hBetween.toStands).movedTo_move
  rw [number, hSkip, pure_bind, left_eq hBetween.toStands, pure_bind, readNumber]
  dsimp only
  rw [cutBytes?_eq_some_iff.mpr ⟨rfl, hSplit⟩]
  dsimp only
  cases format.read? (trim ((trimStart rest).takeWhile (!endsNumber ·))) with
  | none =>
      show Agrees text budget _ (.error ⟨.refused ((ReadFault.number _).toError text), between⟩)
        (.error (.number _))
      exact .refused hBetween.toIsSound
  | some x => exact .done ⟨rfl, hBetween.trans hMove⟩

end Scan

/-- Reads a text in the steps of a machine with a budget of rounds. -/
def scanText (budget : Nat) (text : String) : Except (Stop Float) (Scan Float) :=
  Scan.whole text.toList .binary64 budget

end DbClient.MultiPolygon
