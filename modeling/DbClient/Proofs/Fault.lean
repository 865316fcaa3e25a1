/-! Faults of results. Main statements: `faultOf_mapM` and `faultOf_foldlM`, by which the first
item that fails decides how a list fails. -/

namespace DbClient

variable {α β ε σ : Type}

/-- The fault of a result that failed. -/
def faultOf : Except ε α → Option ε
  | .error fault => some fault
  | .ok _ => none

theorem faultOf_eq_some_iff {result : Except ε α} {fault : ε} :
    faultOf result = some fault ↔ result = .error fault := by
  cases result <;> simp [faultOf]

theorem faultOf_eq_none_iff {result : Except ε α} :
    faultOf result = none ↔ ∃ value, result = .ok value := by
  cases result <;> simp [faultOf]

@[simp]
theorem faultOf_map (f : α → β) (result : Except ε α) :
    faultOf (f <$> result) = faultOf result := by
  cases result <;> rfl

@[simp]
theorem faultOf_mapError {ζ : Type} (f : ε → ζ) (result : Except ε α) :
    faultOf (result.mapError f) = (faultOf result).map f := by
  cases result <;> rfl

/-- Naming faults otherwise keeps all results. -/
theorem mapError_eq_ok_iff {ζ : Type} {f : ε → ζ} {result : Except ε α} {value : α} :
    result.mapError f = .ok value ↔ result = .ok value := by
  constructor
  · intro hMapped
    cases result <;> cases hMapped
    rfl
  · rintro rfl
    rfl

theorem map_eq_ok_iff {f : α → β} {result : Except ε α} {value : β} :
    result.map f = .ok value ↔ ∃ element, result = .ok element ∧ f element = value := by
  cases result <;> simp [Except.map]

/-- A computation of two steps fails in one of them. -/
theorem bind_eq_error_iff {first : Except ε α} {second : α → Except ε β} {fault : ε} :
    first >>= second = .error fault ↔
      first = .error fault ∨ ∃ value, first = .ok value ∧ second value = .error fault := by
  cases first <;> simp [bind, Except.bind]

theorem bind_eq_ok_iff {first : Except ε α} {second : α → Except ε β} {result : β} :
    first >>= second = .ok result ↔ ∃ value, first = .ok value ∧ second value = .ok result := by
  cases first <;> simp [bind, Except.bind]

/-- A list of results succeeds if its first item does and the others do. -/
theorem mapM_cons_eq_ok_iff {f : α → Except ε β} {item : α} {rest : List α} {values : List β} :
    (item :: rest).mapM f = .ok values ↔
      ∃ value others, f item = .ok value ∧ rest.mapM f = .ok others ∧ value :: others = values := by
  rw [List.mapM_cons]
  simp only [bind_eq_ok_iff, pure, Except.pure, Except.ok.injEq]
  constructor
  · rintro ⟨value, hItem, others, hRest, rfl⟩
    exact ⟨value, others, hItem, hRest, rfl⟩
  · rintro ⟨value, others, hItem, hRest, rfl⟩
    exact ⟨value, hItem, others, hRest, rfl⟩

/-- A list of results fails as its first item that fails. -/
theorem faultOf_mapM (f : α → Except ε β) (items : List α) :
    faultOf (items.mapM f) = items.findSome? fun item => faultOf (f item) := by
  induction items with
  | nil => rfl
  | cons item rest ih =>
      rw [List.mapM_cons, List.findSome?_cons, ← ih]
      cases f item with
      | error fault => rfl
      | ok value => cases rest.mapM f <;> rfl

theorem exists_eq_ok_of_mapM {f : α → Except ε β} {items : List α} {values : List β}
    (hValues : items.mapM f = .ok values) {item : α} (hItem : item ∈ items) :
    ∃ value, f item = .ok value := by
  have hNone : faultOf (items.mapM f) = none := faultOf_eq_none_iff.mpr ⟨values, hValues⟩
  rw [faultOf_mapM, List.findSome?_eq_none_iff] at hNone
  exact faultOf_eq_none_iff.mp (hNone item hItem)

/-- A list that is mapped has as many values as items. -/
theorem length_of_mapM {f : α → Except ε β} {items : List α} {values : List β}
    (hValues : items.mapM f = .ok values) : values.length = items.length := by
  induction items generalizing values with
  | nil =>
      cases hValues
      rfl
  | cons item rest ih =>
      obtain ⟨value, others, -, hOthers, rfl⟩ := mapM_cons_eq_ok_iff.mp hValues
      rw [List.length_cons, List.length_cons, ih hOthers]

theorem exists_eq_error_of_mapM {f : α → Except ε β} {items : List α} {fault : ε}
    (hFault : items.mapM f = .error fault) : ∃ item ∈ items, f item = .error fault := by
  rw [← faultOf_eq_some_iff, faultOf_mapM] at hFault
  obtain ⟨item, hItem, hFault⟩ := List.exists_of_findSome?_eq_some hFault
  exact ⟨item, hItem, faultOf_eq_some_iff.mp hFault⟩

/-- If every item yields a value without any effect, so does a list. -/
theorem mapM_eq_pure_map {m : Type → Type} [Monad m] [LawfulMonad m] {f : α → m β} {g : α → β}
    {items : List α} (hItems : ∀ item ∈ items, f item = pure (g item)) :
    items.mapM f = pure (items.map g) := by
  induction items with
  | nil => rfl
  | cons item rest ih =>
      rw [List.mapM_cons, hItems item List.mem_cons_self,
        ih fun other hOther => hItems other (List.mem_cons_of_mem _ hOther), pure_bind, pure_bind]
      rfl

/-- A list of items that encode values is decoded to these if every item is. -/
theorem mapM_map_eq_pure {m : Type → Type} [Monad m] [LawfulMonad m] {f : α → m β}
    {encode : β → α} {values : List β}
    (hValues : ∀ value ∈ values, f (encode value) = pure value) :
    (values.map encode).mapM f = pure values := by
  rw [List.mapM_map]
  exact (mapM_eq_pure_map hValues).trans (congrArg pure values.map_id)

theorem findSome?_flatten (f : α → Option β) (lists : List (List α)) :
    lists.flatten.findSome? f = lists.findSome? fun items => items.findSome? f := by
  induction lists with
  | nil => rfl
  | cons items rest ih =>
      rw [List.flatten_cons, List.findSome?_append, List.findSome?_cons, ih]
      cases items.findSome? f <;> rfl

/-- If only faults of one sort occur, and some does, then the first fault is of that sort. -/
theorem exists_findSome?_eq {IsOfSort : ε → Prop} {fault? : α → Option ε}
    {items : List α}
    (hSort : ∀ item ∈ items, ∀ fault, fault? item = some fault → IsOfSort fault)
    (hSome : ∃ item ∈ items, (fault? item).isSome = true) :
    ∃ fault, items.findSome? fault? = some fault ∧ IsOfSort fault := by
  obtain ⟨fault, hFault⟩ := Option.isSome_iff_exists.mp (List.findSome?_isSome_iff.mpr hSome)
  obtain ⟨item, hItem, hItemFault⟩ := List.exists_of_findSome?_eq_some hFault
  exact ⟨fault, hFault, hSort item hItem fault hItemFault⟩

/-- If the fault of a step depends on the item alone, a fold fails as its first item that fails. -/
theorem faultOf_foldlM {step : σ → α → Except ε σ} {fault? : α → Option ε}
    (hStep : ∀ state item, faultOf (step state item) = fault? item) (items : List α) (state : σ) :
    faultOf (items.foldlM step state) = items.findSome? fault? := by
  induction items generalizing state with
  | nil => rfl
  | cons item rest ih =>
      rw [List.foldlM_cons, List.findSome?_cons, ← hStep state item]
      cases step state item with
      | error fault => rfl
      | ok next => exact ih next

/-- What every step that succeeds preserves holds of the result of a fold that succeeds. -/
theorem invariant_foldlM {Holds : σ → Prop} {step : σ → α → Except ε σ} {items : List α}
    {first last : σ}
    (hStep : ∀ state item next, Holds state → step state item = .ok next → Holds next)
    (hFirst : Holds first) (hLast : items.foldlM step first = .ok last) : Holds last := by
  induction items generalizing first with
  | nil =>
      cases hLast
      exact hFirst
  | cons item rest ih =>
      rw [List.foldlM_cons] at hLast
      cases hNext : step first item with
      | error fault =>
          rw [hNext] at hLast
          cases hLast
      | ok next =>
          rw [hNext] at hLast
          exact ih (hStep first item next hFirst hNext) hLast

end DbClient
