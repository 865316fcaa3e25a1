import DbClient.Geo.MultiPolygon
import Mathlib.Data.List.Forall2
import Mathlib.Data.List.Induction

/-! Cutting a list into parts by a list of their ends. Main statement: `flatten_parts`, by which
the parts determine the list and the ends, as long as the ends are in order and the last one is
the end of the list. -/

namespace DbClient.MultiPolygon

variable {β γ : Type}

/-- The ends are those of consecutive parts of a list of this length: they do not decrease, and
the last one is the end of the list. Without parts the list is empty. -/
structure Covers (ends : List Nat) (length : Nat) : Prop where
  increasing : ends.Pairwise (· ≤ ·)
  last : ends.getLastD 0 = length

theorem Covers.nil : Covers [] 0 := ⟨.nil, rfl⟩

/-- No part ends behind the end of the list. -/
theorem Covers.le_of_mem {ends : List Nat} {length stop : Nat} (hEnds : Covers ends length)
    (hStop : stop ∈ ends) : stop ≤ length := by
  obtain ⟨hIncreasing, rfl⟩ := hEnds
  induction ends using List.reverseRecOn with
  | nil => cases hStop
  | append_singleton ends last ih =>
      rw [List.getLastD_concat]
      rcases List.mem_append.mp hStop with hStop | hStop
      · exact (List.pairwise_append.mp hIncreasing).2.2 stop hStop last (List.mem_singleton_self _)
      · exact Nat.le_of_eq (List.mem_singleton.mp hStop)

/-- One more part of some length. -/
theorem Covers.append {ends : List Nat} {length : Nat} (hEnds : Covers ends length) (more : Nat) :
    Covers (ends ++ [length + more]) (length + more) := by
  refine ⟨List.pairwise_append.mpr ⟨hEnds.increasing, List.pairwise_singleton _ _, ?_⟩,
    List.getLastD_concat⟩
  intro stop hStop last hLast
  rw [List.mem_singleton.mp hLast]
  exact Nat.le_trans (hEnds.le_of_mem hStop) (Nat.le_add_right length more)

/-- Without the last part, the ends are those of the parts before it. -/
theorem Covers.of_append {ends : List Nat} {length stop : Nat} (hEnds : Covers (ends ++ [stop]) length) :
    stop = length ∧ ∃ first, first ≤ length ∧ Covers ends first := by
  have hStop : stop = length := by simpa [List.getLastD_concat] using hEnds.last
  obtain ⟨hIncreasing, -, hLast⟩ := List.pairwise_append.mp hEnds.increasing
  refine ⟨hStop, ends.getLastD 0, ?_, hIncreasing, rfl⟩
  rcases List.mem_cons.mp (List.getLastD_mem_cons (l := ends) (a := 0)) with hZero | hMem
  · rw [hZero]
    exact Nat.zero_le length
  · rw [← hStop]
    exact hLast _ hMem stop (List.mem_singleton_self _)

theorem span?_append_left {ends more : List Nat} {index : Nat} (hIndex : index < ends.length) :
    span? (ends ++ more) index = span? ends index := by
  have hBefore : index - 1 < ends.length := by omega
  simp [span?, List.getElem?_append_left, List.getD_eq_getElem?_getD, hIndex, hBefore]

/-- The last part starts where the one before it ends. -/
theorem span?_append_length (ends : List Nat) (stop : Nat) :
    span? (ends ++ [stop]) ends.length = some (ends.getLastD 0, stop) := by
  have hStart : (if ends.length = 0 then 0 else (ends ++ [stop]).getD (ends.length - 1) 0) =
      ends.getLastD 0 := by
    cases ends using List.reverseRecOn with
    | nil => rfl
    | append_singleton ends last => simp [List.getD_eq_getElem?_getD]
  simp only [span?, hStart, List.getElem?_append_right (Nat.le_refl _), Nat.sub_self]
  rfl

/-- The bounds of a part are in order and in the list. -/
theorem Covers.span? {ends : List Nat} {length index : Nat} (hEnds : Covers ends length)
    (hIndex : index < ends.length) :
    ∃ start stop, span? ends index = some (start, stop) ∧ start ≤ stop ∧ stop ≤ length := by
  have hSpan : MultiPolygon.span? ends index =
      some (if index = 0 then 0 else ends.getD (index - 1) 0, ends[index]) := by
    rw [MultiPolygon.span?, List.getElem?_eq_getElem hIndex, Option.map_some]
  refine ⟨_, _, hSpan, ?_, hEnds.le_of_mem (List.getElem_mem hIndex)⟩
  split
  · exact Nat.zero_le _
  · rename_i hPositive
    have hBefore : index - 1 < ends.length := by omega
    rw [List.getD_eq_getElem?_getD, List.getElem?_eq_getElem hBefore]
    exact List.pairwise_iff_getElem.mp hEnds.increasing _ _ hBefore hIndex (by omega)

/-- A part is one of those that the ends are of, and stops in the list. -/
theorem Covers.bounds {ends : List Nat} {length index start stop : Nat}
    (hEnds : Covers ends length) (hSpan : MultiPolygon.span? ends index = some (start, stop)) :
    index < ends.length ∧ stop ≤ length := by
  obtain ⟨stop', hStop, hSame⟩ := Option.map_eq_some_iff.mp hSpan
  obtain ⟨-, rfl⟩ := Prod.mk.inj hSame
  exact ⟨(List.getElem?_eq_some_iff.mp hStop).1, hEnds.le_of_mem (List.mem_of_getElem? hStop)⟩

/-- Of two parts one ends before the other one starts. -/
theorem Covers.disjoint {ends : List Nat} {length first second : Nat} (hEnds : Covers ends length)
    (hLt : first < second) {start stop start' stop' : Nat}
    (hFirst : MultiPolygon.span? ends first = some (start, stop))
    (hSecond : MultiPolygon.span? ends second = some (start', stop')) : stop ≤ start' := by
  obtain ⟨_, hStop, hFirst⟩ := Option.map_eq_some_iff.mp hFirst
  obtain ⟨_, hStop', hSecond⟩ := Option.map_eq_some_iff.mp hSecond
  obtain ⟨-, rfl⟩ := Prod.mk.inj hFirst
  obtain ⟨rfl, -⟩ := Prod.mk.inj hSecond
  obtain ⟨hIndex, rfl⟩ := List.getElem?_eq_some_iff.mp hStop
  obtain ⟨hIndex', -⟩ := List.getElem?_eq_some_iff.mp hStop'
  have hBefore : second - 1 < ends.length := by omega
  rw [if_neg (by omega), List.getD_eq_getElem?_getD, List.getElem?_eq_getElem hBefore,
    Option.getD_some]
  rcases Nat.eq_or_lt_of_le (Nat.le_sub_one_of_lt hLt) with hSame | hLt
  · simp [hSame]
  · exact List.pairwise_iff_getElem.mp hEnds.increasing _ _ hIndex hBefore hLt

/-- The part with this index. -/
def part? (ends : List Nat) (items : List β) (index : Nat) : Option (List β) :=
  (span? ends index).map fun (start, stop) => (items.take stop).drop start

/-- All parts, in order. -/
def parts (ends : List Nat) (items : List β) : List (List β) :=
  (List.range ends.length).filterMap (part? ends items)

/-- The parts are what stands between their bounds. -/
theorem parts_eq_map {ends : List Nat} {items : List β} (hEnds : Covers ends items.length) :
    parts ends items =
      (List.range ends.length).map fun index => (part? ends items index).getD [] := by
  rw [parts, ← List.filterMap_eq_map]
  apply List.filterMap_congr
  intro index hIndex
  obtain ⟨start, stop, hSpan, -, -⟩ := hEnds.span? (List.mem_range.mp hIndex)
  simp [part?, hSpan]

/-- One more end and the items up to it are one more part. -/
theorem parts_append {ends : List Nat} {items : List β} (hEnds : Covers ends items.length)
    (more : List β) :
    parts (ends ++ [items.length + more.length]) (items ++ more) = parts ends items ++ [more] := by
  have hOld : (List.range ends.length).filterMap
      (part? (ends ++ [items.length + more.length]) (items ++ more)) =
      (List.range ends.length).filterMap (part? ends items) := by
    apply List.filterMap_congr
    intro index hIndex
    have hIndex := List.mem_range.mp hIndex
    obtain ⟨start, stop, hSpan, -, hStop⟩ := hEnds.span? hIndex
    simp [part?, span?_append_left hIndex, hSpan, List.take_append_of_le_length hStop]
  have hNew : part? (ends ++ [items.length + more.length]) (items ++ more) ends.length =
      some more := by
    have hWhole : (items ++ more).take (items.length + more.length) = items ++ more := by
      rw [← List.length_append, List.take_length]
    simp only [part?, span?_append_length, hEnds.last, Option.map_some, hWhole, List.drop_left]
  rw [parts, List.length_append, List.length_singleton, List.range_succ, List.filterMap_append,
    hOld, List.filterMap_cons, hNew]
  rfl

/-- The ends of consecutive parts that begin at `start`. -/
def endsFrom (start : Nat) : List (List β) → List Nat
  | [] => []
  | part :: rest => (start + part.length) :: endsFrom (start + part.length) rest

theorem endsFrom_append_singleton (start : Nat) (lists : List (List β)) (part : List β) :
    endsFrom start (lists ++ [part]) =
      endsFrom start lists ++ [start + lists.flatten.length + part.length] := by
  induction lists generalizing start with
  | nil => simp [endsFrom]
  | cons first rest ih => simp [endsFrom, ih, Nat.add_assoc]

/-- The parts of a list make the list, and they end where they were cut. -/
theorem flatten_parts {ends : List Nat} {items : List β} (hEnds : Covers ends items.length) :
    (parts ends items).flatten = items ∧ endsFrom 0 (parts ends items) = ends := by
  induction ends using List.reverseRecOn generalizing items with
  | nil =>
      have hItems : items = [] := List.length_eq_zero_iff.mp hEnds.last.symm
      rw [hItems]
      exact ⟨rfl, rfl⟩
  | append_singleton ends stop ih =>
      obtain ⟨hStop, first, hFirst, hEnds⟩ := hEnds.of_append
      have hLength : (items.take first).length = first := List.length_take_of_le hFirst
      have hRest : stop = (items.take first).length + (items.drop first).length := by
        rw [List.length_drop, hLength]
        omega
      rw [← hLength] at hEnds
      obtain ⟨hFlatten, hFroms⟩ := ih hEnds
      have hParts : parts (ends ++ [stop]) items =
          parts ends (items.take first) ++ [items.drop first] := by
        rw [hRest, ← parts_append hEnds, List.take_append_drop]
      constructor
      · rw [hParts, List.flatten_concat, hFlatten, List.take_append_drop]
      · rw [hParts, endsFrom_append_singleton, hFroms, hFlatten, Nat.zero_add, ← hRest]

theorem length_endsFrom (start : Nat) (lists : List (List β)) :
    (endsFrom start lists).length = lists.length := by
  induction lists generalizing start with
  | nil => rfl
  | cons first rest ih => simp [endsFrom, ih]

theorem length_parts {ends : List Nat} {items : List β} (hEnds : Covers ends items.length) :
    (parts ends items).length = ends.length := by
  rw [← length_endsFrom 0, (flatten_parts hEnds).2]

/-- Lists in two pieces are related item by item exactly if their pieces are, where the first pieces
are as long as each other. -/
theorem forall₂_append_iff {R : β → γ → Prop} {first second : List β} {first' second' : List γ}
    (hLength : first.length = first'.length) :
    List.Forall₂ R (first ++ second) (first' ++ second') ↔
      List.Forall₂ R first first' ∧ List.Forall₂ R second second' := by
  constructor
  · intro h
    have hFirst := List.forall₂_take_append _ _ _ h
    have hSecond := List.forall₂_drop_append _ _ _ h
    rw [← hLength, List.take_left] at hFirst
    rw [← hLength, List.drop_left] at hSecond
    exact ⟨hFirst, hSecond⟩
  · rintro ⟨hFirst, hSecond⟩
    exact List.rel_append hFirst hSecond

/-- Lists of lists agree exactly when they agree as a whole and end at the same places. -/
theorem forall₂_flatten_iff {R : β → γ → Prop} {left : List (List β)} {right : List (List γ)}
    (start : Nat) :
    List.Forall₂ (List.Forall₂ R) left right ↔
      List.Forall₂ R left.flatten right.flatten ∧ endsFrom start left = endsFrom start right := by
  induction left generalizing right start with
  | nil => cases right <;> simp [endsFrom]
  | cons part rest ih =>
      cases right with
      | nil => simp [endsFrom]
      | cons part' rest' =>
          rw [List.forall₂_cons, ih (start + part.length), List.flatten_cons, List.flatten_cons,
            endsFrom, endsFrom, List.cons.injEq]
          constructor
          · rintro ⟨hPart, hRest, hEnds⟩
            rw [← hPart.length_eq]
            exact ⟨List.rel_append hPart hRest, rfl, hEnds⟩
          · rintro ⟨hAll, hStop, hEnds⟩
            obtain ⟨hPart, hRest⟩ := (forall₂_append_iff (Nat.add_left_cancel hStop)).mp hAll
            rw [hStop]
            exact ⟨hPart, hRest, hStop ▸ hEnds⟩

end DbClient.MultiPolygon
