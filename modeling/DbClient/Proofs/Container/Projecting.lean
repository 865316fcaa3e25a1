import DbClient.Container.View
import DbClient.Procedure
import DbClient.Proofs.Fault

/-! Projections of containers. The map of a container is its list, numbered from one, whatever
reads the elements and the keys. Main statement: `toMap_numbers_toList`. -/

namespace DbClient.ContainerView

variable {σ κ α β : Type} {key : Decoder κ} {item : Decoder α} {view : ContainerView}
  {position : Nat} {document : Json} {error : Error}

/-- A projection of what a state shows of a container. The state is only read. -/
def project (view : σ → ContainerView) (read : ContainerView → Except Error β) : Procedure σ β := do
  read (view (← get))

/-- A projection leaves the state as it was. -/
theorem runIn_project (view : σ → ContainerView) (read : ContainerView → Except Error β)
    (state : σ) : (project view read).runIn state = (read (view state), state) :=
  rfl

/-- The keys that stand for a number of positions from the first one on. -/
def keysFrom (key : Decoder κ) (first count : Nat) : Except DecodeFault (List κ) :=
  (List.range' first count).mapM fun position : Nat => key (.integer position)

theorem keysFrom_succ_eq_ok_iff {first count : Nat} {keys : List κ} :
    keysFrom key first (count + 1) = .ok keys ↔
      ∃ k others, key (.integer first) = .ok k ∧ keysFrom key (first + 1) count = .ok others ∧
        k :: others = keys := by
  rw [keysFrom, List.range'_succ, mapM_cons_eq_ok_iff]
  rfl

/-- The elements with their positions, counted from one. -/
def numbered (view : ContainerView) : List (Json × Nat) :=
  view.items.zipIdx 1

/-! ### What is refused -/

/-- A position has a key, and the element there is one of the type. -/
def Fits (key : Decoder κ) (item : Decoder α) (position : Nat) (document : Json) : Prop :=
  (∃ k, key (.integer position) = .ok k) ∧ ∃ element, item document = .ok element

/-- A position has no key, or it has one and the element there is not one of the type. -/
inductive Refuses (key : Decoder κ) (item : Decoder α) (view : ContainerView) (position : Nat)
    (document : Json) : Error → Prop where
  | key {fault : DecodeFault} (hKey : key (.integer position) = .error fault) :
      Refuses key item view position document (keyError position fault)
  | element {k : κ} {fault : DecodeFault} (hKey : key (.integer position) = .ok k)
      (hItem : item document = .error fault) :
      Refuses key item view position document (view.elementError fault)

/-- The first element that is not one of the type is refused. -/
def RefusesFirst (item : Decoder α) (view : ContainerView) (error : Error) : Prop :=
  ∃ before document after fault, view.items = before ++ document :: after ∧
    (∀ earlier ∈ before, ∃ element, item earlier = .ok element) ∧
    item document = .error fault ∧ error = view.elementError fault

/-- The first position that has no key or no element of the type is refused. -/
def RefusesFirstNumbered (key : Decoder κ) (item : Decoder α) (view : ContainerView)
    (error : Error) : Prop :=
  ∃ before document position after, view.numbered = before ++ (document, position) :: after ∧
    (∀ earlier ∈ before, Fits key item earlier.2 earlier.1) ∧
    Refuses key item view position document error

/-- The error for the element at a position, if there is one. -/
def refusal? (key : Decoder κ) (item : Decoder α) (view : ContainerView) (position : Nat)
    (document : Json) : Option Error :=
  ((faultOf (key (.integer position))).map (keyError position)).or
    ((faultOf (item document)).map view.elementError)

/-- The error for an element says why it is refused. -/
theorem refusal?_eq_some_iff :
    refusal? key item view position document = some error ↔
      Refuses key item view position document error := by
  unfold refusal?
  constructor
  · intro hRefusal
    cases hKey : key (.integer position) with
    | error fault =>
        rw [hKey] at hRefusal
        cases hRefusal
        exact .key hKey
    | ok k =>
        cases hItem : item document with
        | error fault =>
            rw [hKey, hItem] at hRefusal
            cases hRefusal
            exact .element hKey hItem
        | ok element =>
            rw [hKey, hItem] at hRefusal
            cases hRefusal
  · intro hRefuses
    cases hRefuses with
    | key hKey => rw [hKey]; rfl
    | element hKey hItem => rw [hKey, hItem]; rfl

theorem refusal?_eq_none_iff :
    refusal? key item view position document = none ↔ Fits key item position document := by
  rw [refusal?, Option.or_eq_none_iff, Option.map_eq_none_iff, Option.map_eq_none_iff,
    faultOf_eq_none_iff, faultOf_eq_none_iff, Fits]

/-- The first element that is refused is the first one with an error. -/
theorem refusesFirst_iff :
    RefusesFirst item view error ↔
      view.items.findSome? (fun document => (faultOf (item document)).map view.elementError) =
        some error := by
  simp only [List.findSome?_eq_some_iff, Option.map_eq_some_iff, Option.map_eq_none_iff,
    faultOf_eq_some_iff, faultOf_eq_none_iff]
  constructor
  · rintro ⟨before, document, after, fault, hItems, hBefore, hFault, rfl⟩
    exact ⟨before, document, after, hItems, ⟨fault, hFault, rfl⟩, hBefore⟩
  · rintro ⟨before, document, after, hItems, ⟨fault, hFault, rfl⟩, hBefore⟩
    exact ⟨before, document, after, fault, hItems, hBefore, hFault, rfl⟩

/-- The first position that is refused is the first one with an error. -/
theorem refusesFirstNumbered_iff :
    RefusesFirstNumbered key item view error ↔
      view.numbered.findSome? (fun entry => refusal? key item view entry.2 entry.1) =
        some error := by
  simp only [List.findSome?_eq_some_iff, refusal?_eq_some_iff, refusal?_eq_none_iff]
  constructor
  · rintro ⟨before, document, position, after, hItems, hBefore, hRefuses⟩
    exact ⟨before, (document, position), after, hItems, hRefuses, hBefore⟩
  · rintro ⟨before, ⟨document, position⟩, after, hItems, hRefuses, hBefore⟩
    exact ⟨before, document, position, after, hItems, hBefore, hRefuses⟩

/-- If the positions have keys, only elements are refused. -/
theorem findSome?_refusal?_of_keys {keys : List κ} {documents : List Json} {first : Nat}
    (hKeys : keysFrom key first documents.length = .ok keys) :
    ((documents.zipIdx first).findSome? fun entry => refusal? key item view entry.2 entry.1) =
      documents.findSome? fun document => (faultOf (item document)).map view.elementError := by
  induction documents generalizing first keys with
  | nil => rfl
  | cons document documents ih =>
      obtain ⟨k, others, hKey, hOthers, -⟩ := keysFrom_succ_eq_ok_iff.mp hKeys
      have hFirst : refusal? key item view first document =
          (faultOf (item document)).map view.elementError := by
        rw [refusal?, hKey]
        rfl
      rw [List.zipIdx_cons, List.findSome?_cons, List.findSome?_cons, hFirst, ih hOthers]

/-! ### Both projections -/

theorem toList_eq_error_iff : view.toList item = .error error ↔ RefusesFirst item view error := by
  rw [refusesFirst_iff, ← faultOf_eq_some_iff, toList, faultOf_mapM]
  simp only [faultOf_mapError]

variable [Ord κ] [Std.TransOrd κ]

/-- One more element is added under its key, or refused. -/
theorem faultOf_insertFrom (built : SortedMap κ α) (documents : List Json) (first : Nat) :
    faultOf (insertFrom key item view first built documents) =
      (documents.zipIdx first).findSome? fun entry => refusal? key item view entry.2 entry.1 := by
  induction documents generalizing first built with
  | nil => rfl
  | cons document documents ih =>
      rw [insertFrom, List.zipIdx_cons, List.findSome?_cons, refusal?]
      cases key (.integer first) with
      | error fault => rfl
      | ok k =>
          cases item document with
          | error fault => rfl
          | ok element => exact ih (built.insert k element) (first + 1)

theorem toMap_eq_error_iff :
    view.toMap key item = .error error ↔ RefusesFirstNumbered key item view error := by
  rw [refusesFirstNumbered_iff, ← faultOf_eq_some_iff, toMap, faultOf_insertFrom, numbered]

/-- If every position has a key and every element is one of the type, the elements are bound to the
keys one after another. -/
theorem insertFrom_eq_ok_iff {built map : SortedMap κ α} {documents : List Json} {first : Nat} :
    insertFrom key item view first built documents = .ok map ↔
      ∃ keys elements, keysFrom key first documents.length = .ok keys ∧
        (documents.mapM fun document => (item document).mapError view.elementError) =
          .ok elements ∧ built.insertAll (keys.zip elements) = map := by
  induction documents generalizing first built with
  | nil =>
      constructor
      · intro hMap
        cases hMap
        exact ⟨[], [], rfl, rfl, rfl⟩
      · rintro ⟨keys, elements, hKeys, hElements, rfl⟩
        cases hKeys
        cases hElements
        rfl
  | cons document documents ih =>
      rw [insertFrom, List.length_cons]
      simp only [bind_eq_ok_iff, keysFrom_succ_eq_ok_iff, mapM_cons_eq_ok_iff, mapError_eq_ok_iff,
        ih]
      constructor
      · rintro ⟨k, hKey, element, hItem, keys, elements, hKeys, hElements, rfl⟩
        exact ⟨k :: keys, element :: elements, ⟨k, keys, hKey, hKeys, rfl⟩,
          ⟨element, elements, hItem, hElements, rfl⟩, rfl⟩
      · rintro ⟨_, _, ⟨k, keys, hKey, hKeys, rfl⟩, ⟨element, elements, hItem, hElements, rfl⟩, rfl⟩
        exact ⟨k, hKey, element, hItem, keys, elements, hKeys, hElements, rfl⟩

theorem toMap_eq_ok_iff {map : SortedMap κ α} :
    view.toMap key item = .ok map ↔
      ∃ keys elements, keysFrom key 1 view.items.length = .ok keys ∧
        view.toList item = .ok elements ∧ SortedMap.ofList (keys.zip elements) = map :=
  insertFrom_eq_ok_iff

/-- There is no map if a position has no key, not even one of the other positions. -/
theorem exists_toMap_eq_error (hKey : ∃ position ∈ List.range' 1 view.items.length,
    ∀ k, key (.integer (position : Nat)) ≠ .ok k) :
    ∃ error, view.toMap key item = .error error := by
  obtain ⟨position, hPosition, hKey⟩ := hKey
  cases hMap : view.toMap key item with
  | error error => exact ⟨error, rfl⟩
  | ok map =>
      obtain ⟨keys, elements, hKeys, -, -⟩ := toMap_eq_ok_iff.mp hMap
      obtain ⟨k, hFound⟩ := exists_eq_ok_of_mapM hKeys hPosition
      exact absurd hFound (hKey k)

/-! ### Keys for all positions -/

/-- If all positions have keys, the map and the list fail with the same error. -/
theorem toMap_eq_error_iff_toList {keys : List κ}
    (hKeys : keysFrom key 1 view.items.length = .ok keys) :
    view.toMap key item = .error error ↔ view.toList item = .error error := by
  rw [toMap_eq_error_iff, toList_eq_error_iff, refusesFirst_iff, refusesFirstNumbered_iff, numbered,
    findSome?_refusal?_of_keys hKeys]

/-- The elements of a list stand under keys, the first one under the first key and so on, and
nothing else stands under any key. -/
structure Numbers (keys : List κ) (elements : List α) (map : SortedMap κ α) : Prop where
  entries : map.entries = keys.zip elements
  length : elements.length = keys.length
  get? : ∀ i (hKey : i < keys.length), map.get? keys[i] = elements[i]?

/-- No element is lost or written over when the keys increase. -/
theorem numbers_ofList {keys : List κ} {elements : List α}
    (hKeys : keys.Pairwise fun first second => compare first second = .lt)
    (hLength : elements.length = keys.length) :
    Numbers keys elements (.ofList (keys.zip elements)) := by
  have hEntries : (SortedMap.ofList (keys.zip elements)).entries = keys.zip elements := by
    refine SortedMap.entries_ofList_of_increasing ?_
    rw [← List.map_fst_zip (Nat.le_of_eq hLength.symm), List.pairwise_map] at hKeys
    exact hKeys
  refine ⟨hEntries, hLength, ?_⟩
  intro i hKey
  have hElement : i < elements.length := hLength ▸ hKey
  have hEntry : (keys[i], elements[i]) ∈ (SortedMap.ofList (keys.zip elements)).entries := by
    have hZip : i < (keys.zip elements).length := by
      rw [List.length_zip]
      omega
    rw [hEntries, ← List.getElem_zip (h := hZip)]
    exact List.getElem_mem hZip
  rw [List.getElem?_eq_getElem hElement]
  exact SortedMap.get?_of_mem_entries hEntry

/-- Projecting a container to a map changes nothing. If the positions of its elements have
increasing keys, there is a map exactly if there is a list, and it has the elements of the list
under the keys of their positions; both fail with the same error, for the first element that is not
one of the type. Whatever the keys are, the map fails exactly for the first position that has no
key or no such element, and it always fails if a position has no key. -/
theorem toMap_numbers_toList (view : σ → ContainerView) (value : σ) (key : Decoder κ)
    (item : Decoder α) :
    (project view (toMap key item)).runIn value = ((view value).toMap key item, value) ∧
    (∀ keys, keysFrom key 1 (view value).items.length = .ok keys →
      keys.Pairwise (fun first second => compare first second = .lt) →
      (∀ elements, (view value).toList item = .ok elements →
        ∃ map, (view value).toMap key item = .ok map ∧ Numbers keys elements map) ∧
      ∀ error, ((view value).toMap key item = .error error ↔
          (view value).toList item = .error error) ∧
        ((view value).toList item = .error error ↔ RefusesFirst item (view value) error)) ∧
    (∀ error, (view value).toMap key item = .error error ↔
      RefusesFirstNumbered key item (view value) error) ∧
    ((∃ position ∈ List.range' 1 (view value).items.length,
        ∀ k, key (.integer (position : Nat)) ≠ .ok k) →
      ∃ error, (view value).toMap key item = .error error) ∧
    ∀ error, (view value).toMap key item = .error error → error.code = "INVALID_INPUT" := by
  refine ⟨runIn_project view _ value, ?_, fun _ => toMap_eq_error_iff, exists_toMap_eq_error, ?_⟩
  · intro keys hKeys hIncreasing
    refine ⟨?_, fun error => ⟨toMap_eq_error_iff_toList hKeys, toList_eq_error_iff⟩⟩
    intro elements hElements
    have hLength : elements.length = keys.length := by
      rw [length_of_mapM hElements, length_of_mapM hKeys, List.length_range']
    exact ⟨_, toMap_eq_ok_iff.mpr ⟨keys, elements, hKeys, hElements, rfl⟩,
      numbers_ofList hIncreasing hLength⟩
  · intro error hError
    obtain ⟨_, _, _, _, -, -, hRefuses⟩ := toMap_eq_error_iff.mp hError
    cases hRefuses <;> rfl

/-- Three positions have keys of eight bits, and the 256th position has none. -/
theorem toMap_numbers_bytes :
    let mixed : ContainerView := ⟨.array, [.integer 7, .null, .integer (-1)], false, true⟩
    let wide : ContainerView := ⟨.tuple, List.replicate 256 (.bool true), false, true⟩
    keysFrom .nat8 1 3 = .ok [1, 2, 3] ∧
    (∃ map, mixed.toMap .nat8 (.optional .int32) = .ok map ∧
      map.entries = [(1, some 7), (2, none), (3, some (-1))]) ∧
    ∃ error, wide.toMap .nat8 .document = .error error ∧ error.code = "INVALID_INPUT" := by
  intro mixed wide
  obtain ⟨-, hNumbered, -⟩ := toMap_numbers_toList id mixed .nat8 (.optional .int32)
  obtain ⟨-, -, -, hNone, hCode⟩ := toMap_numbers_toList id wide .nat8 .document
  have hKeys : keysFrom .nat8 1 3 = .ok [1, 2, 3] := rfl
  have hElements : mixed.toList (.optional .int32) = .ok [some 7, none, some (-1)] := rfl
  obtain ⟨map, hMap, hNumbers⟩ := (hNumbered [1, 2, 3] hKeys (by decide)).1 _ hElements
  have hLast (k : Int) : Decoder.nat8 (.integer (256 : Nat)) ≠ .ok k := by
    intro hKey
    cases hKey
  have hLength : wide.items.length = 256 := List.length_replicate
  have hPosition : 256 ∈ List.range' 1 wide.items.length := List.mem_range'_1.mpr (by omega)
  obtain ⟨error, hError⟩ := hNone ⟨256, hPosition, hLast⟩
  exact ⟨hKeys, ⟨map, hMap, hNumbers.entries⟩, error, hError, hCode error hError⟩

end DbClient.ContainerView
