/-! Finite maps kept as lists of entries in strictly increasing key order, so that two maps
with the same bindings are equal and a listing of the entries is sorted. Main statements:
`get?_insert`, `get?_erase` and `get?_overlay` give each operation through the view `get?`,
and `ext_get?` says that the view determines the map. -/

namespace DbClient

/-- A finite map, given by its entries in strictly increasing key order. -/
structure SortedMap (κ ν : Type) [Ord κ] where
  entries : List (κ × ν)
  increasing : entries.Pairwise fun first second => compare first.1 second.1 = .lt
  deriving DecidableEq

namespace SortedMap

variable {κ ν : Type} [Ord κ]

def empty : SortedMap κ ν := ⟨[], .nil⟩

instance : Inhabited (SortedMap κ ν) := ⟨empty⟩

/-- The value that the first entry with an equal key holds. -/
def find? (key : κ) : List (κ × ν) → Option ν
  | [] => none
  | entry :: rest => if compare key entry.1 = .eq then some entry.2 else find? key rest

/-- Puts an entry in its place, over an entry with the same key. -/
def place (key : κ) (value : ν) : List (κ × ν) → List (κ × ν)
  | [] => [(key, value)]
  | entry :: rest =>
    match compare key entry.1 with
    | .lt => (key, value) :: entry :: rest
    | .eq => (key, value) :: rest
    | .gt => entry :: place key value rest

def get? (map : SortedMap κ ν) (key : κ) : Option ν :=
  find? key map.entries

def contains (map : SortedMap κ ν) (key : κ) : Bool :=
  (map.get? key).isSome

def size (map : SortedMap κ ν) : Nat :=
  map.entries.length

def isEmpty (map : SortedMap κ ν) : Bool :=
  map.entries.isEmpty

def keys (map : SortedMap κ ν) : List κ :=
  map.entries.map Prod.fst

def erase (map : SortedMap κ ν) (key : κ) : SortedMap κ ν :=
  ⟨map.entries.filter fun entry => compare key entry.1 != .eq, map.increasing.filter _⟩

/-- An entry that is there after another one was placed was there before, or is that one. -/
theorem mem_place {key : κ} {value : ν} {entry : κ × ν} {entries : List (κ × ν)}
    (h : entry ∈ place key value entries) : entry = (key, value) ∨ entry ∈ entries := by
  induction entries with
  | nil => simpa [place] using h
  | cons head tail ih =>
    simp only [place] at h
    split at h <;> simp only [List.mem_cons] at h ⊢
    · exact h
    · exact h.imp_right .inr
    · rcases h with h | h
      · exact .inr (.inl h)
      · exact (ih h).imp_right .inr

/-- Placing an entry keeps the keys in strictly increasing order. -/
theorem increasing_place [Std.TransOrd κ] (key : κ) (value : ν) {entries : List (κ × ν)}
    (h : entries.Pairwise fun first second => compare first.1 second.1 = .lt) :
    (place key value entries).Pairwise fun first second => compare first.1 second.1 = .lt := by
  induction entries with
  | nil => simp [place]
  | cons head tail ih =>
    obtain ⟨hHead, hTail⟩ := List.pairwise_cons.1 h
    simp only [place]
    split <;> rename_i hKey
    · refine List.pairwise_cons.2 ⟨fun entry hMem => ?_, h⟩
      rcases List.mem_cons.1 hMem with rfl | hMem
      · exact hKey
      · exact Std.TransCmp.lt_trans hKey (hHead entry hMem)
    · refine List.pairwise_cons.2 ⟨fun entry hMem => ?_, hTail⟩
      exact (Std.TransCmp.congr_left hKey).trans (hHead entry hMem)
    · refine List.pairwise_cons.2 ⟨fun entry hMem => ?_, ih hTail⟩
      rcases mem_place hMem with rfl | hMem
      · exact Std.OrientedCmp.lt_of_gt hKey
      · exact hHead entry hMem

/-- An entry with a greater key than all others is placed at the end. -/
theorem place_of_forall_lt [Std.OrientedOrd κ] {key : κ} {value : ν} {entries : List (κ × ν)}
    (h : ∀ entry ∈ entries, compare entry.1 key = .lt) :
    place key value entries = entries ++ [(key, value)] := by
  induction entries with
  | nil => rfl
  | cons head tail ih =>
    obtain ⟨hHead, hTail⟩ := List.forall_mem_cons.1 h
    simp only [place, Std.OrientedCmp.gt_of_lt hHead, ih hTail, List.cons_append]

variable [Std.TransOrd κ]

/-- Binds a key, over an earlier binding of the same key. -/
def insert (map : SortedMap κ ν) (key : κ) (value : ν) : SortedMap κ ν :=
  ⟨place key value map.entries, increasing_place key value map.increasing⟩

/-- Binds every pair of a list in turn, so that later pairs win. -/
def insertAll (map : SortedMap κ ν) (pairs : List (κ × ν)) : SortedMap κ ν :=
  pairs.foldl (fun built pair => built.insert pair.1 pair.2) map

/-- The map of a list of pairs, in which later pairs win. -/
def ofList (pairs : List (κ × ν)) : SortedMap κ ν :=
  empty.insertAll pairs

/-- Both maps together; the second one wins. -/
def overlay (lower upper : SortedMap κ ν) : SortedMap κ ν :=
  lower.insertAll upper.entries

/-- Pairs whose keys increase are listed as they were bound. -/
theorem entries_insertAll_of_increasing {map : SortedMap κ ν} {pairs : List (κ × ν)}
    (h : (map.entries ++ pairs).Pairwise fun first second => compare first.1 second.1 = .lt) :
    (map.insertAll pairs).entries = map.entries ++ pairs := by
  induction pairs generalizing map with
  | nil => exact (List.append_nil _).symm
  | cons pair rest ih =>
    have hLast : (map.insert pair.1 pair.2).entries = map.entries ++ [pair] :=
      place_of_forall_lt fun entry hEntry =>
        (List.pairwise_append.1 h).2.2 entry hEntry pair List.mem_cons_self
    have step : map.insertAll (pair :: rest) = (map.insert pair.1 pair.2).insertAll rest := rfl
    have hAll : (map.insert pair.1 pair.2).entries ++ rest = map.entries ++ pair :: rest := by
      rw [hLast, List.append_assoc, List.singleton_append]
    rw [step, ih (hAll ▸ h), hAll]

theorem entries_ofList_of_increasing {pairs : List (κ × ν)}
    (h : pairs.Pairwise fun first second => compare first.1 second.1 = .lt) :
    (ofList pairs).entries = pairs :=
  entries_insertAll_of_increasing h

omit [Std.TransOrd κ] in
/-- An entry is found under its key. -/
theorem get?_of_mem_entries [Std.OrientedOrd κ] {map : SortedMap κ ν} {entry : κ × ν}
    (h : entry ∈ map.entries) : map.get? entry.1 = some entry.2 := by
  obtain ⟨entries, increasing⟩ := map
  simp only [get?]
  induction entries with
  | nil => cases h
  | cons head tail ih =>
    obtain ⟨hHead, hTail⟩ := List.pairwise_cons.1 increasing
    rcases List.mem_cons.1 h with rfl | hMem
    · rw [find?, if_pos Std.ReflOrd.compare_self]
    · have hGt := Std.OrientedCmp.gt_of_lt (hHead entry hMem)
      rw [find?, if_neg (by simp [hGt]), ih hTail hMem]

variable [Std.LawfulEqOrd κ]

omit [Std.TransOrd κ] [Std.LawfulEqOrd κ] in
@[simp]
theorem get?_empty (key : κ) : (empty : SortedMap κ ν).get? key = none := rfl

omit [Std.TransOrd κ] in
theorem find?_place [DecidableEq κ] (key other : κ) (value : ν) (entries : List (κ × ν)) :
    find? other (place key value entries) =
      if other = key then some value else find? other entries := by
  induction entries with
  | nil => simp [place, find?]
  | cons head tail ih =>
    simp only [place]
    split <;> rename_i hKey
    · simp [find?]
    · obtain rfl := Std.compare_eq_iff_eq.1 hKey
      by_cases hOther : other = head.1 <;> simp [find?, hOther]
    · simp only [find?, ih, Std.compare_eq_iff_eq]
      by_cases hOther : other = head.1
      · have hNe : head.1 ≠ key := by
          rintro rfl
          rw [Std.compare_eq_iff_eq.2 rfl] at hKey
          cases hKey
        simp [hOther, hNe]
      · simp [hOther]

@[simp]
theorem get?_insert [DecidableEq κ] (map : SortedMap κ ν) (key other : κ) (value : ν) :
    (map.insert key value).get? other = if other = key then some value else map.get? other :=
  find?_place key other value map.entries

omit [Std.TransOrd κ] in
@[simp]
theorem get?_erase [DecidableEq κ] (map : SortedMap κ ν) (key other : κ) :
    (map.erase key).get? other = if other = key then none else map.get? other := by
  simp only [get?, erase]
  induction map.entries with
  | nil => simp [find?]
  | cons head tail ih =>
    by_cases hKey : key = head.1
    · subst hKey
      simp only [List.filter, Std.compare_eq_iff_eq.2 rfl, bne_self_eq_false, ih, find?,
        Std.compare_eq_iff_eq]
      by_cases hOther : other = head.1 <;> simp [hOther]
    · have hNe : (compare key head.1 != .eq) = true := by simpa [Std.compare_eq_iff_eq] using hKey
      simp only [List.filter, hNe, find?, ih, Std.compare_eq_iff_eq]
      by_cases hOther : other = head.1
      · subst hOther
        simp [Ne.symm hKey]
      · simp [hOther]

omit [Std.TransOrd κ] in
/-- An entry is listed exactly when its key is bound to its value. -/
theorem mem_entries_iff {map : SortedMap κ ν} {key : κ} {value : ν} :
    (key, value) ∈ map.entries ↔ map.get? key = some value := by
  obtain ⟨entries, increasing⟩ := map
  simp only [get?]
  induction entries with
  | nil => simp [find?]
  | cons head tail ih =>
    obtain ⟨hHead, hTail⟩ := List.pairwise_cons.1 increasing
    simp only [find?, List.mem_cons, Std.compare_eq_iff_eq]
    by_cases hKey : key = head.1
    · subst hKey
      have hNot : (head.1, value) ∉ tail := fun hMem => by
        have := hHead _ hMem
        rw [Std.compare_eq_iff_eq.2 rfl] at this
        cases this
      simp [hNot, Prod.ext_iff, eq_comm]
    · simp [hKey, Prod.ext_iff, ih hTail]

/-- After binding the pairs of a list, the last pair with a key counts. -/
theorem get?_insertAll [DecidableEq κ] (map : SortedMap κ ν) (pairs : List (κ × ν)) (key : κ) :
    (map.insertAll pairs).get? key =
      ((pairs.reverse.find? fun pair => pair.1 = key).map Prod.snd).or (map.get? key) := by
  induction pairs generalizing map with
  | nil => rfl
  | cons pair rest ih =>
    have step : map.insertAll (pair :: rest) = (map.insert pair.1 pair.2).insertAll rest := rfl
    rw [step, ih, get?_insert, List.reverse_cons, List.find?_append, List.find?_singleton]
    cases rest.reverse.find? fun pair => pair.1 = key with
    | some found => rfl
    | none => by_cases hKey : key = pair.1 <;> simp [hKey, eq_comm]

omit [Std.TransOrd κ] in
/-- What a key is bound to can be found from either end of the entries. -/
theorem find?_reverse_entries [DecidableEq κ] (map : SortedMap κ ν) (key : κ) :
    (map.entries.reverse.find? fun entry => entry.1 = key).map Prod.snd = map.get? key := by
  cases hFound : map.entries.reverse.find? fun entry => entry.1 = key with
  | some entry =>
    obtain rfl : entry.1 = key := by simpa using List.find?_some hFound
    have hMem := List.mem_reverse.1 (List.mem_of_find?_eq_some hFound)
    exact (mem_entries_iff.1 hMem).symm
  | none =>
    cases hGet : map.get? key with
    | none => rfl
    | some value =>
      have hMem := List.mem_reverse.2 (mem_entries_iff.2 hGet)
      simpa using List.find?_eq_none.1 hFound _ hMem

/-- In an overlay the upper map counts where it binds a key. -/
theorem get?_overlay [DecidableEq κ] (lower upper : SortedMap κ ν) (key : κ) :
    (lower.overlay upper).get? key = (upper.get? key).or (lower.get? key) := by
  rw [overlay, get?_insertAll, find?_reverse_entries]

omit [Std.TransOrd κ] in
theorem nodup_entries (map : SortedMap κ ν) : map.entries.Nodup := by
  refine map.increasing.imp fun hLt hEq => ?_
  rw [hEq, Std.compare_eq_iff_eq.2 rfl] at hLt
  cases hLt

/-- A map is determined by what its keys are bound to. -/
theorem ext_get? {left right : SortedMap κ ν} (h : ∀ key, left.get? key = right.get? key) :
    left = right := by
  have hMem (entry : κ × ν) : entry ∈ left.entries ↔ entry ∈ right.entries := by
    obtain ⟨key, value⟩ := entry
    rw [mem_entries_iff, mem_entries_iff, h]
  have hPerm : left.entries.Perm right.entries :=
    (List.perm_ext_iff_of_nodup left.nodup_entries right.nodup_entries).2 hMem
  have hEntries : left.entries = right.entries := by
    refine hPerm.eq_of_pairwise (fun first second _ _ hLt hGt => ?_) left.increasing right.increasing
    rw [Std.OrientedCmp.gt_of_lt hLt] at hGt
    cases hGt
  cases left
  cases right
  cases hEntries
  rfl

/-- The map of a list is the map of its front with the map of its back over it. -/
theorem ofList_append (front back : List (κ × ν)) :
    ofList (front ++ back) = (ofList front).overlay (ofList back) := by
  classical
  refine ext_get? fun key => ?_
  have hSplit : ofList (front ++ back) = (ofList front).insertAll back := List.foldl_append
  have hBack : (ofList back).get? key =
      (back.reverse.find? fun pair => pair.1 = key).map Prod.snd := by
    rw [ofList, get?_insertAll, get?_empty, Option.or_none]
  rw [hSplit, get?_overlay, get?_insertAll, hBack]

/-- In the map of what items give, a key is bound to what the last item gives for it. -/
theorem get?_ofList_filterMap {α : Type} [DecidableEq κ] (pair? : α → Option (κ × ν))
    (items : List α) (key : κ) : (ofList (items.filterMap pair?)).get? key =
      items.reverse.findSome? fun item =>
        (pair? item).bind fun pair => if pair.1 = key then some pair.2 else none := by
  have hGiven (entry : κ × ν) : (Option.guard (fun entry : κ × ν => entry.1 = key) entry).map
      Prod.snd = if entry.1 = key then some entry.2 else none := by
    by_cases hKey : entry.1 = key <;> simp [Option.guard, hKey]
  rw [ofList, get?_insertAll, get?_empty, Option.or_none, List.find?_eq_findSome?_guard,
    List.map_findSome?, ← List.filterMap_reverse, ← List.head?_filterMap,
    List.filterMap_filterMap, List.head?_filterMap]
  simp only [Function.comp_def, hGiven]

/-- What a key is bound to stands in the list that the map was made of. -/
theorem mem_of_get?_ofList {pairs : List (κ × ν)} {key : κ} {value : ν}
    (h : (ofList pairs).get? key = some value) : (key, value) ∈ pairs := by
  classical
  rw [ofList, get?_insertAll, get?_empty, Option.or_none] at h
  obtain ⟨⟨first, second⟩, hFound, rfl⟩ := Option.map_eq_some_iff.1 h
  obtain rfl : first = key := by simpa using List.find?_some hFound
  exact List.mem_reverse.1 (List.mem_of_find?_eq_some hFound)

/-- Every key of the list that a map was made of is bound. -/
theorem exists_get?_ofList {pairs : List (κ × ν)} {key : κ} {value : ν}
    (h : (key, value) ∈ pairs) : ∃ found, (ofList pairs).get? key = some found := by
  classical
  rw [ofList, get?_insertAll, get?_empty, Option.or_none]
  cases hFound : pairs.reverse.find? fun pair => pair.1 = key with
  | some pair => exact ⟨pair.2, rfl⟩
  | none => simpa using List.find?_eq_none.1 hFound _ (List.mem_reverse.2 h)

/-- A list of the bindings of a map makes the map, whatever their order. -/
theorem ofList_eq_of_mem_iff {pairs : List (κ × ν)} {map : SortedMap κ ν}
    (h : ∀ key value, (key, value) ∈ pairs ↔ map.get? key = some value) : ofList pairs = map := by
  refine ext_get? fun key => ?_
  cases hGet : map.get? key with
  | some value =>
    obtain ⟨found, hFound⟩ := exists_get?_ofList ((h key value).2 hGet)
    rw [hFound, ← (h key found).1 (mem_of_get?_ofList hFound), hGet]
  | none =>
    cases hFound : (ofList pairs).get? key with
    | none => rfl
    | some found =>
      have := (h key found).1 (mem_of_get?_ofList hFound)
      rw [hGet] at this
      cases this

omit [Std.TransOrd κ] in
/-- An entry is determined by its key. -/
theorem eq_of_mem_entries {map : SortedMap κ ν} {first second : κ × ν}
    (hFirst : first ∈ map.entries) (hSecond : second ∈ map.entries)
    (hKey : first.1 = second.1) : first = second := by
  have hGet := mem_entries_iff.1 hFirst
  rw [hKey, mem_entries_iff.1 hSecond] at hGet
  exact Prod.ext hKey (Option.some.inj hGet).symm

/-- Whatever order its entries are found in, sorting them by their keys lists a map. -/
theorem map_mergeSort_of_perm {α : Type} {map : SortedMap κ ν} {items : List α}
    {entry : α → κ × ν} (h : (items.map entry).Perm map.entries) :
    (items.mergeSort fun first second =>
      (compare (entry first).1 (entry second).1).isLE).map entry = map.entries := by
  have hPerm := ((List.mergeSort_perm items fun first second =>
    (compare (entry first).1 (entry second).1).isLE).map entry).trans h
  have hTotal (first second : α) : ((compare (entry first).1 (entry second).1).isLE ||
      (compare (entry second).1 (entry first).1).isLE) = true := by
    have hSwap : compare (entry second).1 (entry first).1 =
        (compare (entry first).1 (entry second).1).swap := Std.OrientedCmp.eq_swap
    rw [hSwap]
    cases compare (entry first).1 (entry second).1 <;> rfl
  have hSorted := List.pairwise_mergeSort (fun _ _ _ => Std.TransCmp.isLE_trans) hTotal items
  have hEntries : map.entries.Pairwise fun first second =>
      (compare first.1 second.1).isLE = true :=
    map.increasing.imp fun hLt => by simp [hLt]
  refine List.Perm.eq_of_pairwise (fun first second hFirst hSecond hLE hGE => ?_)
    (List.pairwise_map.2 hSorted) hEntries hPerm
  refine eq_of_mem_entries (hPerm.mem_iff.1 hFirst) hSecond ?_
  exact Std.compare_eq_iff_eq.1 (Std.OrientedCmp.isLE_antisymm hLE hGE)

end SortedMap

end DbClient
