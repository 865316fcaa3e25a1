import DbClient.Session.Identity
import DbClient.Proofs.Setting.Typing
import Mathlib.Data.List.Perm.Subperm

/-! Assignments kept in hash tables. The slots of a table lie in an order that hangs on all that was
done with it, so that equal assignments may lie in different tables. Main statements:
`Holds.lists` says that a table holds what the same edits make of an assignment. From it follow
`Lists.map_sorted`, `Lists.fingerprint_eq` and `Lists.same_iff`, by which sorted slots, what a hash
is computed from and equality do not depend on the order. -/

namespace DbClient.Setting

/-- The slots of a hash table in the order in which they are walked through. -/
abbrev Table := List (Descriptor × Value)

namespace Table

variable {table other lower upper left right : Table} {assignment : Assignment}
  {setting : Descriptor} {value : Value} {id : Id}

/-- The identity and the value in a slot. -/
def entry (slot : Descriptor × Value) : Id × Value := (slot.1.id, slot.2)

/-- The identities that a table has slots for. -/
def ids (table : Table) : List Id := table.map fun slot => slot.1.id

def lookup? (id : Id) : Table → Option Value
  | [] => none
  | slot :: rest => if slot.1.id = id then some slot.2 else lookup? id rest

/-- Puts a value in the slot for a setting. A slot that there is already keeps the setting that it
was made for. -/
def put (setting : Descriptor) (value : Value) : Table → Table
  | [] => [(setting, value)]
  | slot :: rest =>
    if slot.1.id = setting.id then (slot.1, value) :: rest else slot :: put setting value rest

def remove (table : Table) (setting : Descriptor) : Table :=
  table.filter fun slot => slot.1.id ≠ setting.id

/-- Puts the values of a table over another one, in the order of its slots. -/
def overlay (lower upper : Table) : Table :=
  upper.foldl (fun built slot => built.put slot.1 slot.2) lower

/-- The slots in order of their settings. -/
def sorted (table : Table) : Table :=
  table.mergeSort fun first second => (compare first.1.id second.1.id).isLE

/-- Whether two tables have as many slots, and each value is found in the other one. -/
def same (left right : Table) : Bool :=
  left.length = right.length && left.all fun slot => right.lookup? slot.1.id = some slot.2

/-- What a hash is computed from. -/
def fingerprint (table : Table) : Fingerprint :=
  .number table.length ::
    table.sorted.flatMap fun slot => slot.1.id.fingerprint ++ slot.2.fingerprint

/-- The tables that hold an assignment after the same edits. A table may be laid out anew at any
time. -/
inductive Holds : Table → Assignment → Prop where
  | empty : Holds [] .empty
  | arrange {table other : Table} {assignment : Assignment} (hTable : Holds table assignment)
      (hOrder : table.Perm other) : Holds other assignment
  | set {table : Table} {assignment changed : Assignment} {setting : Descriptor} {value : Value}
      (hTable : Holds table assignment) (hSet : assignment.set setting value = .ok changed) :
      Holds (table.put setting value) changed
  | setText {table : Table} {assignment : Assignment} {setting : Descriptor} {text : String}
      {value : Value} (hTable : Holds table assignment) (hParse : setting.parse text = .ok value) :
      Holds (table.put setting value) (assignment.insert setting.id value)
  | remove {table : Table} {assignment : Assignment} (hTable : Holds table assignment)
      (setting : Descriptor) : Holds (table.remove setting) (assignment.erase setting.id)
  | overlay {lower upper : Table} {first second : Assignment} (hLower : Holds lower first)
      (hUpper : Holds upper second) : Holds (lower.overlay upper) (first.overlay second)

/-- A table that has one slot for each entry of an assignment, in any order. -/
structure Lists (table : Table) (assignment : Assignment) : Prop where
  distinct : table.ids.Nodup
  lookup : ∀ id, table.lookup? id = assignment.get? id

/-- What is found stands in a slot. -/
theorem mem_of_lookup? (hFound : table.lookup? id = some value) :
    (id, value) ∈ table.map entry := by
  induction table with
  | nil => cases hFound
  | cons slot rest ih =>
      rw [lookup?] at hFound
      split at hFound
      · rename_i hId
        cases hFound
        exact hId ▸ List.mem_cons_self
      · exact List.mem_cons_of_mem _ (ih hFound)

theorem mem_ids_of_mem (hMem : (id, value) ∈ table.map entry) : id ∈ table.ids := by
  obtain ⟨slot, hSlot, hEntry⟩ := List.mem_map.mp hMem
  exact List.mem_map.mpr ⟨slot, hSlot, congrArg Prod.fst hEntry⟩

/-- What stands in a slot is found, if no two slots are for one setting. -/
theorem lookup?_of_mem (hDistinct : table.ids.Nodup) (hMem : (id, value) ∈ table.map entry) :
    table.lookup? id = some value := by
  induction table with
  | nil => cases hMem
  | cons slot rest ih =>
      obtain ⟨hFresh, hRest⟩ := List.nodup_cons.mp hDistinct
      rw [lookup?]
      rcases List.mem_cons.mp hMem with hSlot | hMem
      · cases hSlot
        exact if_pos rfl
      · have hId : slot.1.id ≠ id := by
          rintro rfl
          exact hFresh (mem_ids_of_mem hMem)
        rw [if_neg hId, ih hRest hMem]

/-- Where no identity has two slots, a look-up finds what stands in some slot. -/
theorem lookup?_eq_some_iff (hDistinct : table.ids.Nodup) :
    table.lookup? id = some value ↔ (id, value) ∈ table.map entry :=
  ⟨mem_of_lookup?, lookup?_of_mem hDistinct⟩

/-- If no two slots are for one setting, no two are the same. -/
theorem nodup_entries (hDistinct : table.ids.Nodup) : (table.map entry).Nodup := by
  refine List.Nodup.of_map Prod.fst ?_
  rw [List.map_map]
  exact hDistinct

/-- If no two slots are for one setting, their order does not matter to what is found. -/
theorem lookup?_eq_of_perm (hDistinct : table.ids.Nodup) (hOrder : table.Perm other) :
    other.lookup? id = table.lookup? id := by
  have hOther : other.ids.Nodup := (hOrder.map _).nodup_iff.mp hDistinct
  refine Option.ext fun value => ?_
  rw [lookup?_eq_some_iff hDistinct, lookup?_eq_some_iff hOther]
  exact (hOrder.map entry).mem_iff.symm

/-- After a value is put, it is found under its setting, and the others are as they were. -/
theorem lookup?_put (table : Table) (setting : Descriptor) (value : Value) (id : Id) :
    (table.put setting value).lookup? id =
      if id = setting.id then some value else table.lookup? id := by
  induction table with
  | nil => simp [put, lookup?, eq_comm]
  | cons slot rest ih =>
      rw [put]
      by_cases hSlot : slot.1.id = setting.id
      · rw [if_pos hSlot, lookup?, lookup?, hSlot]
        by_cases hId : id = setting.id <;> simp [hId, eq_comm]
      · rw [if_neg hSlot, lookup?, lookup?, ih]
        by_cases hId : slot.1.id = id
        · have hOther : id ≠ setting.id := hId ▸ hSlot
          rw [if_pos hId, if_pos hId, if_neg hOther]
        · rw [if_neg hId, if_neg hId]

/-- Putting a value adds at most its setting. -/
theorem mem_ids_put : id ∈ (table.put setting value).ids ↔ id = setting.id ∨ id ∈ table.ids := by
  induction table with
  | nil => simp [put, ids]
  | cons slot rest ih =>
      rw [put]
      split
      · rename_i hSlot
        simp [ids, ← hSlot]
      · simp only [ids, List.map_cons, List.mem_cons] at ih ⊢
        rw [ih]
        exact or_left_comm

/-- Putting a value makes no second slot for its setting. -/
theorem nodup_ids_put (hDistinct : table.ids.Nodup) : (table.put setting value).ids.Nodup := by
  induction table with
  | nil => simp [put, ids]
  | cons slot rest ih =>
      obtain ⟨hFresh, hRest⟩ := List.nodup_cons.mp hDistinct
      rw [put]
      split
      · exact hDistinct
      · rename_i hSlot
        refine List.nodup_cons.mpr ⟨fun hMem => ?_, ih hRest⟩
        exact (mem_ids_put.mp hMem).elim hSlot hFresh

/-- After a setting is removed, nothing is found under it, and the others are as they were. -/
theorem lookup?_remove (table : Table) (setting : Descriptor) (id : Id) :
    (table.remove setting).lookup? id = if id = setting.id then none else table.lookup? id := by
  induction table with
  | nil => simp [remove, lookup?]
  | cons slot rest ih =>
      by_cases hSlot : slot.1.id = setting.id
      · rw [remove, List.filter_cons_of_neg (by simpa using hSlot), lookup?, hSlot]
        refine Eq.trans ih ?_
        by_cases hId : id = setting.id <;> simp [hId, eq_comm]
      · rw [remove, List.filter_cons_of_pos (by simpa using hSlot), lookup?, lookup?]
        by_cases hId : slot.1.id = id
        · have hOther : id ≠ setting.id := hId ▸ hSlot
          rw [if_pos hId, if_pos hId, if_neg hOther]
        · rw [if_neg hId, if_neg hId]
          exact ih

/-- Removing a setting makes no second slot for any. -/
theorem nodup_ids_remove (hDistinct : table.ids.Nodup) (setting : Descriptor) :
    (table.remove setting).ids.Nodup :=
  hDistinct.sublist (List.filter_sublist.map _)

/-- Laying a table over another one makes no second slot for any setting. -/
theorem nodup_ids_overlay (hLower : lower.ids.Nodup) (upper : Table) :
    (lower.overlay upper).ids.Nodup :=
  List.foldlRecOn (motive := fun built : Table => built.ids.Nodup) upper _ hLower
    fun _ hBuilt _ _ => nodup_ids_put hBuilt

/-- In tables laid over each other, the upper one is asked first. -/
theorem lookup?_overlay (lower : Table) (hUpper : upper.ids.Nodup) (id : Id) :
    (lower.overlay upper).lookup? id = (upper.lookup? id).or (lower.lookup? id) := by
  induction upper generalizing lower with
  | nil => rfl
  | cons slot rest ih =>
      obtain ⟨hFresh, hRest⟩ := List.nodup_cons.mp hUpper
      have hStep : (lower.overlay (slot :: rest)) = (lower.put slot.1 slot.2).overlay rest := rfl
      rw [hStep, ih _ hRest, lookup?_put, lookup?]
      by_cases hId : slot.1.id = id
      · subst hId
        -- The slots that follow are for other settings.
        have hNone : lookup? slot.1.id rest = none := by
          rw [Option.eq_none_iff_forall_ne_some]
          exact fun value hFound => hFresh (mem_ids_of_mem (mem_of_lookup? hFound))
        rw [if_pos rfl, if_pos rfl, hNone, Option.none_or, Option.some_or]
      · rw [if_neg hId, if_neg (Ne.symm hId)]

namespace Lists

variable {first second : Assignment}

/-- A table that is laid out anew lists the same. -/
theorem arrange (hLists : table.Lists assignment) (hOrder : table.Perm other) :
    other.Lists assignment := by
  refine ⟨(hOrder.map _).nodup_iff.mp hLists.distinct, fun id => ?_⟩
  rw [lookup?_eq_of_perm hLists.distinct hOrder, hLists.lookup]

/-- Putting a value lists what inserting it makes of the assignment. -/
theorem put (hLists : table.Lists assignment) (setting : Descriptor) (value : Value) :
    (table.put setting value).Lists (assignment.insert setting.id value) := by
  refine ⟨nodup_ids_put hLists.distinct, fun id => ?_⟩
  rw [lookup?_put, hLists.lookup, SortedMap.get?_insert]

/-- Removing a setting lists what erasing it makes of the assignment. -/
theorem remove (hLists : table.Lists assignment) (setting : Descriptor) :
    (table.remove setting).Lists (assignment.erase setting.id) := by
  refine ⟨nodup_ids_remove hLists.distinct setting, fun id => ?_⟩
  rw [lookup?_remove, hLists.lookup, SortedMap.get?_erase]

/-- Laying tables over each other lists what laying their assignments over each other makes. -/
theorem overlay (hLower : lower.Lists first) (hUpper : upper.Lists second) :
    (lower.overlay upper).Lists (first.overlay second) := by
  refine ⟨nodup_ids_overlay hLower.distinct upper, fun id => ?_⟩
  rw [lookup?_overlay lower hUpper.distinct, hLower.lookup, hUpper.lookup, SortedMap.get?_overlay]

/-- The slots of a table are the entries of what it lists. -/
theorem mem_iff (hLists : table.Lists assignment) :
    (id, value) ∈ table.map entry ↔ (id, value) ∈ assignment.entries := by
  rw [← lookup?_eq_some_iff hLists.distinct, hLists.lookup, SortedMap.mem_entries_iff]

/-- The slots of a table are the entries of what it lists, each once, in some order. -/
theorem perm_entries (hLists : table.Lists assignment) :
    (table.map entry).Perm assignment.entries := by
  have hEntries : assignment.entries.Nodup :=
    assignment.increasing.imp fun hLt hEq => by
      rw [hEq, Std.compare_eq_iff_eq.mpr rfl] at hLt
      cases hLt
  refine (List.perm_ext_iff_of_nodup (nodup_entries hLists.distinct) hEntries).mpr ?_
  exact fun _ => hLists.mem_iff

/-- There are as many slots as entries. -/
theorem length_eq (hLists : table.Lists assignment) : table.length = assignment.size := by
  simpa [SortedMap.size] using hLists.perm_entries.length_eq

/-- Sorted slots are the entries of the assignment in their order. -/
theorem map_sorted (hLists : table.Lists assignment) :
    table.sorted.map entry = assignment.entries :=
  SortedMap.map_mergeSort_of_perm hLists.perm_entries

/-- Sorted slots are for settings in strictly increasing order. -/
theorem increasing (hLists : table.Lists assignment) :
    table.sorted.ids.Pairwise fun first second => compare first second = .lt := by
  have hKeys : table.sorted.ids = assignment.entries.map Prod.fst := by
    rw [← hLists.map_sorted, List.map_map]
    rfl
  rw [hKeys]
  exact List.pairwise_map.mpr assignment.increasing

/-- A hash is computed from the same items, however the table is laid out. -/
theorem fingerprint_eq (hLists : table.Lists assignment) :
    table.fingerprint = Assignment.fingerprint assignment := by
  rw [Table.fingerprint, Assignment.fingerprint, ← hLists.map_sorted, hLists.length_eq,
    List.flatMap_map]
  rfl

/-- Tables are found to be the same exactly if they hold the same assignment. -/
theorem same_iff (hLeft : left.Lists first) (hRight : right.Lists second) :
    left.same right = true ↔ first = second := by
  rw [Table.same, Bool.and_eq_true, decide_eq_true_iff, List.all_eq_true]
  constructor
  · rintro ⟨hLength, hAll⟩
    have hSubset : left.map entry ⊆ right.map entry := by
      intro found hFound
      obtain ⟨slot, hSlot, rfl⟩ := List.mem_map.mp hFound
      exact mem_of_lookup? (by simpa using hAll slot hSlot)
    -- As many slots of the one table as the other one has leave room for no others.
    have hPerm : (left.map entry).Perm (right.map entry) :=
      (List.subperm_of_subset (nodup_entries hLeft.distinct) hSubset).perm_of_length_le
        (by simp [hLength])
    refine SortedMap.ext_get? fun id => Option.ext fun value => ?_
    rw [← SortedMap.mem_entries_iff, ← SortedMap.mem_entries_iff, ← hLeft.mem_iff,
      ← hRight.mem_iff, hPerm.mem_iff]
  · rintro rfl
    refine ⟨hLeft.length_eq.trans hRight.length_eq.symm, fun slot hSlot => ?_⟩
    have hMem : (slot.1.id, slot.2) ∈ left.map entry := List.mem_map.mpr ⟨slot, hSlot, rfl⟩
    rw [decide_eq_true_iff, hRight.lookup, ← hLeft.lookup]
    exact lookup?_of_mem hLeft.distinct hMem

example : same [(Builtin.ssl, .flag true), (Builtin.retry, .int 2)]
    [(Builtin.retry, .int 2), (Builtin.ssl, .flag true)] = true := by
  decide

end Lists

/-- Whatever was done with it, a table lists the assignment that it holds. -/
theorem Holds.lists (hHolds : table.Holds assignment) : table.Lists assignment := by
  induction hHolds with
  | empty => exact ⟨.nil, fun _ => rfl⟩
  | arrange _ hOrder ih => exact ih.arrange hOrder
  | set _ hSet ih =>
      obtain ⟨-, rfl⟩ := Assignment.set_eq_ok_iff.mp hSet
      exact ih.put _ _
  | setText _ _ ih => exact ih.put _ _
  | remove _ setting ih => exact ih.remove setting
  | overlay _ _ ihLower ihUpper => exact ihLower.overlay ihUpper

end Table

end DbClient.Setting
