import DbClient.SortedMap

/-! Containers that share payloads. Every container refers to a cell, and several containers
may refer to the same one. A payload is written in place only if no other container refers to
its cell; otherwise the container moves to a new cell. Main statements: `payload?_create`,
`payload?_share`, `payload?_replace` and `payload?_modify` give each operation through the view
`payload?`, in which sharing cannot be seen. -/

namespace DbClient

/-- Containers known by names, and the payloads that they refer to. -/
structure Store (ι π : Type) [Ord ι] where
  cells : List π
  /-- The cell that each container refers to. -/
  owners : SortedMap ι Nat
  inRange : ∀ owner ∈ owners.entries, owner.2 < cells.length

namespace Store

variable {ι π : Type} [Ord ι]

/-- The store without containers. -/
def empty : Store ι π := ⟨[], .empty, by simp [SortedMap.empty]⟩

/-- The cell that a container refers to. -/
def cell? (store : Store ι π) (name : ι) : Option Nat :=
  store.owners.get? name

/-- The payload of a container. -/
def payload? (store : Store ι π) (name : ι) : Option π :=
  (store.cell? name).bind fun cell => store.cells[cell]?

/-- Whether two containers refer to the same cell. -/
def shares (store : Store ι π) (first second : ι) : Bool :=
  match store.cell? first, store.cell? second with
  | some cell, some other => cell = other
  | _, _ => false

/-- The number of containers that refer to a cell. -/
def ownerCount (store : Store ι π) (cell : Nat) : Nat :=
  store.owners.entries.countP fun owner => owner.2 = cell

/-- Puts a payload into a cell. -/
def write (store : Store ι π) (cell : Nat) (payload : π) : Store ι π :=
  { store with
    cells := store.cells.set cell payload
    inRange := fun owner hOwner => by simpa using store.inRange owner hOwner }

/-- Removes a container. -/
def erase (store : Store ι π) (name : ι) : Store ι π :=
  { store with
    owners := store.owners.erase name
    inRange := fun owner hOwner => store.inRange owner (List.mem_filter.1 hOwner).1 }

theorem lt_of_cell? [Std.LawfulEqOrd ι] {store : Store ι π} {name : ι} {cell : Nat}
    (h : store.cell? name = some cell) : cell < store.cells.length :=
  store.inRange (name, cell) (SortedMap.mem_entries_iff.2 h)

variable [Std.TransOrd ι]

/-- Makes a container refer to a cell. -/
def refer (store : Store ι π) (name : ι) (cell : Nat) (h : cell < store.cells.length) :
    Store ι π where
  cells := store.cells
  owners := store.owners.insert name cell
  inRange owner hOwner := by
    rcases SortedMap.mem_place hOwner with rfl | hOwner
    · exact h
    · exact store.inRange owner hOwner

/-- Makes a container of a payload of its own, in place of an earlier one with the name. -/
def create (store : Store ι π) (name : ι) (payload : π) : Store ι π :=
  refer
    { store with
      cells := store.cells ++ [payload]
      inRange := fun owner hOwner => by
        have := store.inRange owner hOwner
        simp
        omega }
    name store.cells.length (by simp)

variable [Std.LawfulEqOrd ι]

/-- Makes a container share the payload of another one, if there is such a container. -/
def share (store : Store ι π) (name source : ι) : Store ι π :=
  match h : store.cell? source with
  | none => store
  | some cell => store.refer name cell (lt_of_cell? h)

/-- Makes a container as a copy of another one: a deep copy has a payload of its own, a shallow
one shares that of the other. -/
def copy (store : Store ι π) (name source : ι) (deep : Bool) : Store ι π :=
  match deep, store.payload? source with
  | true, some payload => store.create name payload
  | _, _ => store.share name source

/-- Replaces the payload of a container: in place if no other container shares it, else by a
payload of its own. -/
def replace (store : Store ι π) (name : ι) (payload : π) : Store ι π :=
  match store.cell? name with
  | none => store.create name payload
  | some cell =>
    if store.ownerCount cell = 1 then store.write cell payload else store.create name payload

/-- Changes the payload of a container, which gets a payload of its own if it shared one. -/
def modify (store : Store ι π) (name : ι) (f : π → π) : Store ι π :=
  match store.payload? name with
  | none => store
  | some payload => store.replace name (f payload)

/-! ### The view of every operation -/

variable [DecidableEq ι]

omit [Std.TransOrd ι] [Std.LawfulEqOrd ι] [DecidableEq ι] in
theorem getElem?_of_cell? {store : Store ι π} {name : ι} {cell : Nat}
    (h : store.cell? name = some cell) : store.cells[cell]? = store.payload? name := by
  simp [payload?, h]

omit [Std.TransOrd ι] [DecidableEq ι] in
theorem isSome_cell? (store : Store ι π) (name : ι) :
    (store.cell? name).isSome = (store.payload? name).isSome := by
  cases hCell : store.cell? name with
  | none => simp [payload?, hCell]
  | some cell => simp [payload?, hCell, lt_of_cell? hCell]

theorem payload?_refer (store : Store ι π) (name other : ι) (cell : Nat)
    (h : cell < store.cells.length) :
    (store.refer name cell h).payload? other =
      if other = name then store.cells[cell]? else store.payload? other := by
  by_cases hName : other = name <;> simp [payload?, cell?, refer, hName]

/-- A new container has its payload, and no other container notices it. -/
@[simp]
theorem payload?_create (store : Store ι π) (name other : ι) (payload : π) :
    (store.create name payload).payload? other =
      if other = name then some payload else store.payload? other := by
  rw [create, payload?_refer]
  split
  · simp
  · cases h : store.cell? other with
    | none => simp only [payload?, cell?] at h ⊢; simp [h]
    | some cell =>
      have := lt_of_cell? h
      simp only [payload?, cell?] at h ⊢
      simp [h, List.getElem?_append_left this]

/-- A container that shares has the payload of the other one from then on. -/
@[simp]
theorem payload?_share (store : Store ι π) (name source other : ι) :
    (store.share name source).payload? other =
      if other = name ∧ (store.cell? source).isSome then store.payload? source
      else store.payload? other := by
  unfold share
  split
  · rename_i h
    simp [h]
  · rename_i cell h
    rw [payload?_refer, getElem?_of_cell? h]
    simp [h]

/-- Whether a copy is deep cannot be seen. -/
theorem payload?_copy (store : Store ι π) (name source other : ι) (deep : Bool) :
    (store.copy name source deep).payload? other = (store.share name source).payload? other := by
  unfold copy
  split
  · rename_i payload h
    have hSome : (store.cell? source).isSome = true := by
      cases hCell : store.cell? source with
      | none => simp [payload?, hCell] at h
      | some cell => rfl
    simp [hSome, h]
  · rfl

omit [Std.TransOrd ι] [DecidableEq ι] in
/-- Two containers that refer to the same cell are counted there twice, unless they are one. -/
theorem eq_of_ownerCount_eq_one {store : Store ι π} {first second : ι} {cell : Nat}
    (hCount : store.ownerCount cell = 1) (hFirst : store.cell? first = some cell)
    (hSecond : store.cell? second = some cell) : first = second := by
  have mem {name : ι} (h : store.cell? name = some cell) :
      (name, cell) ∈ store.owners.entries.filter fun owner => owner.2 = cell :=
    List.mem_filter.2 ⟨SortedMap.mem_entries_iff.2 h, by simp⟩
  rw [ownerCount, List.countP_eq_length_filter] at hCount
  obtain ⟨owner, hOwner⟩ := List.length_eq_one_iff.1 hCount
  have hFirst := mem hFirst
  have hSecond := mem hSecond
  rw [hOwner, List.mem_singleton] at hFirst hSecond
  exact congrArg Prod.fst (hFirst.trans hSecond.symm)

/-- No other container notices that a payload was replaced, whether it was shared or not. -/
@[simp]
theorem payload?_replace (store : Store ι π) (name other : ι) (payload : π) :
    (store.replace name payload).payload? other =
      if other = name then some payload else store.payload? other := by
  unfold replace
  split
  · simp
  · rename_i cell hCell
    split
    · rename_i hCount
      have hLt := lt_of_cell? hCell
      by_cases hName : other = name
      · subst hName
        simp only [cell?] at hCell
        simp [payload?, cell?, write, hCell, hLt]
      · simp only [hName, if_false]
        cases hOther : store.cell? other with
        | none => simp only [payload?, cell?, write] at hOther ⊢; simp [hOther]
        | some otherCell =>
          have hNe : cell ≠ otherCell := by
            rintro rfl
            exact hName (eq_of_ownerCount_eq_one hCount hOther hCell)
          simp only [payload?, cell?, write] at hOther ⊢
          simp [hOther, List.getElem?_set_ne hNe]
    · simp

/-- No other container notices that a payload was changed, whether it was shared or not. -/
theorem payload?_modify (store : Store ι π) (name other : ι) (f : π → π) :
    (store.modify name f).payload? other =
      if other = name then (store.payload? name).map f else store.payload? other := by
  unfold modify
  split
  · rename_i h
    by_cases hName : other = name
    · subst hName; simp [h]
    · simp [hName]
  · rename_i payload h
    simp [h]

omit [Std.TransOrd ι] in
@[simp]
theorem payload?_erase (store : Store ι π) (name other : ι) :
    (store.erase name).payload? other = if other = name then none else store.payload? other := by
  by_cases hName : other = name <;> simp [payload?, cell?, erase, hName]

end Store

end DbClient
