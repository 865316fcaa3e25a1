import DbClient.Proofs.Container.Updating

/-! Sessions over containers that share payloads. Main statement: `session_shows_private_payloads`,
by which every session shows what it would show if each container had a payload of its own. -/

namespace DbClient

variable {ι : Type}

/-! ### Which containers share -/

namespace Store

section

variable {π : Type} [Ord ι] {store : Store ι π} {name other source : ι}

/-- Containers share a payload exactly if they refer to the same cell. -/
theorem shares_iff {first second : ι} :
    store.shares first second = true ↔
      ∃ cell, store.cell? first = some cell ∧ store.cell? second = some cell := by
  unfold shares
  cases store.cell? first with
  | none => simp
  | some cell =>
      cases store.cell? second with
      | none => simp
      | some otherCell => simp [eq_comm]

theorem shares_eq_false_iff {first second : ι} :
    store.shares first second = false ↔
      ∀ cell, store.cell? first = some cell → store.cell? second ≠ some cell := by
  rw [← Bool.not_eq_true, shares_iff]
  simp

/-- Containers that share a payload have the same one. -/
theorem payload?_eq_of_shares {first second : ι} (hShares : store.shares first second = true) :
    store.payload? first = store.payload? second := by
  obtain ⟨cell, hFirst, hSecond⟩ := shares_iff.mp hShares
  rw [← getElem?_of_cell? hFirst, getElem?_of_cell? hSecond]

variable [Std.TransOrd ι] [Std.LawfulEqOrd ι]

omit [Std.TransOrd ι] in
/-- A container that has no payload refers to no cell. -/
theorem cell?_eq_none (hNone : store.payload? name = none) : store.cell? name = none := by
  have hSome := store.isSome_cell? name
  rw [hNone] at hSome
  exact Option.not_isSome_iff_eq_none.mp (Bool.eq_false_iff.mp hSome)

theorem cell?_refer [DecidableEq ι] (store : Store ι π) (name other : ι) (cell : Nat)
    (hCell : cell < store.cells.length) :
    (store.refer name cell hCell).cell? other =
      if other = name then some cell else store.cell? other :=
  SortedMap.get?_insert store.owners name other cell

/-- A container that shares the payload of another one does share it. -/
theorem shares_share [DecidableEq ι] (hSource : (store.cell? source).isSome = true) :
    (store.share name source).shares name source = true := by
  obtain ⟨cell, hCell⟩ := Option.isSome_iff_exists.mp hSource
  rw [shares_iff]
  refine ⟨cell, ?_⟩
  unfold share
  split
  · rename_i hNone
    rw [hNone] at hCell
    cases hCell
  · rename_i found hFound
    obtain rfl : found = cell := Option.some.inj (hFound.symm.trans hCell)
    constructor
    · rw [cell?_refer, if_pos rfl]
    · rw [cell?_refer, hCell, ite_self]

/-- The cell of a new container is behind all others. -/
theorem shares_create [DecidableEq ι] (hName : other ≠ name) (payload : π) :
    (store.create name payload).shares name other = false := by
  rw [shares_eq_false_iff]
  intro cell hCell hOther
  rw [create, cell?_refer, if_pos rfl] at hCell
  rw [create, cell?_refer, if_neg hName] at hOther
  have hLt : cell < store.cells.length := lt_of_cell? hOther
  rw [← Option.some.inj hCell] at hLt
  exact Nat.lt_irrefl _ hLt

/-- A payload is written in place only where no other container refers to it. -/
theorem shares_replace [DecidableEq ι] (hName : other ≠ name) (payload : π) :
    (store.replace name payload).shares name other = false := by
  unfold replace
  split
  · exact shares_create hName payload
  · rename_i cell hCell
    split
    · rename_i hCount
      rw [shares_eq_false_iff]
      intro found hFound hOther
      obtain rfl : found = cell := Option.some.inj (hFound.symm.trans hCell)
      exact hName (eq_of_ownerCount_eq_one hCount hOther hCell)
    · exact shares_create hName payload

/-- A container that is written to shares its payload with no other one from then on. -/
theorem shares_modify [DecidableEq ι] (hName : other ≠ name) (change : π → π) :
    (store.modify name change).shares name other = false := by
  unfold modify
  split
  · rename_i hNone
    rw [shares_eq_false_iff, cell?_eq_none hNone]
    exact nofun
  · exact shares_replace hName _

/-- A shallow copy shares the payload of the container that it was made of. -/
theorem shares_copy [DecidableEq ι] (hSource : (store.payload? source).isSome = true) :
    (store.copy name source false).shares name source = true := by
  rw [← isSome_cell?] at hSource
  unfold copy
  exact shares_share hSource

/-- A deep copy shares nothing with the container that it was made of. -/
theorem shares_copy_deep [DecidableEq ι] (hName : source ≠ name) :
    (store.copy name source true).shares name source = false := by
  cases hSource : store.payload? source with
  | some payload =>
      unfold copy
      rw [hSource]
      exact shares_create hName payload
  | none =>
      -- There is no original, so nothing is copied.
      have hCell := cell?_eq_none hSource
      have hShare : store.share name source = store := by
        unfold share
        split
        · rfl
        · rename_i cell hFound
          rw [hCell] at hFound
          cases hFound
      unfold copy
      rw [hSource]
      dsimp only
      rw [hShare, shares_eq_false_iff]
      intro cell _
      rw [hCell]
      exact nofun

end

/-! ### What operations show -/

section

variable [Ord ι] [Std.TransOrd ι] [Std.LawfulEqOrd ι] [DecidableEq ι]

/-- A container adopts the payload of another one, unless that is empty. -/
theorem shares_absorb {store : ShapeStore ι} {name source : ι} {container : Source ι}
    {payload : Shape} (hUpdate : container.update = .ok (.share source))
    (hPayload : store.payload? source = some payload) (hNonempty : payload.isEmpty = false) :
    ((absorb name container).runIn store).2.shares name source = true := by
  have hSource : (store.cell? source).isSome = true := by
    rw [isSome_cell?, hPayload]
    rfl
  rw [runIn_absorb, hUpdate]
  dsimp only
  rw [apply, hPayload]
  dsimp only
  rw [hNonempty]
  exact shares_share hSource

variable (store : ShapeStore ι)

theorem payload?_create_eq (name : ι) (payload : Shape) :
    (store.create name payload).payload? = Function.update store.payload? name (some payload) := by
  funext other
  rw [payload?_create, Function.update_apply]

/-- Both the reference and the new container have the payload. -/
theorem payload?_createFrom_eq (name reference : ι) (payload : Shape) :
    (store.createFrom name (some reference) payload).payload? =
      Function.update (Function.update store.payload? reference (some payload)) name
        (some payload) := by
  rw [createFrom, payload?_share_eq, View.copy, payload?_replace_eq, Function.update_self]

/-- Deep and shallow copies have the payload of the container that they were made of. -/
theorem payload?_copy_eq (name source : ι) (deep : Bool) :
    (store.copy name source deep).payload? = View.copy store.payload? name source := by
  rw [← payload?_share_eq]
  funext other
  exact payload?_copy store name source other deep

/-- Where no payload is shared, a change of one container is a change of the view at its name. -/
theorem payload?_modify_eq (name : ι) (change : Shape → Shape) :
    (store.modify name change).payload? =
      Function.update store.payload? name ((store.payload? name).map change) := by
  funext other
  rw [payload?_modify, Function.update_apply]

omit [Std.TransOrd ι] in
theorem payload?_erase_eq (name : ι) :
    (store.erase name).payload? = Function.update store.payload? name none := by
  funext other
  rw [payload?_erase, Function.update_apply]

end

end Store

/-! ### Other containers -/

/-- A copy is noticed only at its own name. -/
theorem View.copy_of_ne [DecidableEq ι] {name other : ι} (hOther : other ≠ name)
    (view : View ι) (source : ι) : view.copy name source other = view other := by
  rw [View.copy]
  cases view source with
  | none => rfl
  | some payload => exact Function.update_of_ne hOther _ _

/-- An update is noticed only at the name that it is done to. -/
theorem Update.applyTo_of_ne [DecidableEq ι] {name other : ι} (hOther : other ≠ name)
    (update : Update ι) (view : View ι) : update.applyTo name view other = view other := by
  cases update with
  | replace payload => exact Function.update_of_ne hOther _ _
  | share source =>
      rw [applyTo]
      cases view source with
      | none => rfl
      | some payload => exact Function.update_of_ne hOther _ _

/-! ### Sessions -/

/-- What is done with containers. -/
inductive Operation (ι : Type) where
  | create (name : ι) (payload : Shape)
  | createNested (name : ι) (polygons : NestedPolygons Float)
  /-- A container that shares the payload of another one, which gets that payload first. -/
  | createFrom (name : ι) (reference? : Option ι) (payload : Shape)
  /-- A shallow copy is also what cloning a container makes. -/
  | copy (name source : ι) (deep : Bool)
  | replace (name : ι) (payload : Shape)
  | reset (name : ι)
  | absorb (name : ι) (source : Source ι)
  /-- Anything written to the payload: points that are set, polygons that are pushed. -/
  | write (name : ι) (change : Shape → Shape)
  | discard (name : ι)

namespace Operation

/-- The containers that an operation makes, changes or discards. -/
def targets : Operation ι → List ι
  | create name _ => [name]
  | createNested name _ => [name]
  | createFrom name reference? _ => name :: reference?.toList
  | copy name _ _ => [name]
  | replace name _ => [name]
  | reset name => [name]
  | absorb name _ => [name]
  | write name _ => [name]
  | discard name => [name]

/-- An operation on containers that share payloads. -/
def perform [Ord ι] [Std.TransOrd ι] [Std.LawfulEqOrd ι] :
    Operation ι → Procedure (ShapeStore ι) Unit
  | create name payload => modify fun store => store.create name payload
  | createNested name polygons => do
    let payload ← MultiPolygon.ofCoordinates polygons
    modify fun store => store.create name payload
  | createFrom name reference? payload =>
    modify fun store => store.createFrom name reference? payload
  | copy name source deep => modify fun store => store.copy name source deep
  | replace name payload => modify fun store => store.replace name payload
  | reset name => modify fun store => store.reset name
  | absorb name source => Store.absorb name source
  | write name change => modify fun store => store.modify name change
  | discard name => modify fun store => store.erase name

/-- The same operation where every container has a payload of its own. -/
def performAlone [DecidableEq ι] : Operation ι → Procedure (View ι) Unit
  | create name payload => modify fun view => Function.update view name (some payload)
  | createNested name polygons => do
    let payload ← MultiPolygon.ofCoordinates polygons
    modify fun view => Function.update view name (some payload)
  | createFrom name none payload => modify fun view => Function.update view name (some payload)
  | createFrom name (some reference) payload => modify fun view =>
    Function.update (Function.update view reference (some payload)) name (some payload)
  | copy name source _ => modify fun view => view.copy name source
  | replace name payload => modify fun view => Function.update view name (some payload)
  | reset name => modify fun view => Function.update view name (some .empty)
  | absorb name source => do
    let update ← source.update
    modify (update.applyTo name)
  | write name change => modify fun view => Function.update view name ((view name).map change)
  | discard name => modify fun view => Function.update view name none

variable [Ord ι] [Std.TransOrd ι] [Std.LawfulEqOrd ι] [DecidableEq ι]

/-- The containers after an operation, whether it failed or not. -/
def after (operation : Operation ι) (store : ShapeStore ι) : ShapeStore ι :=
  (operation.perform.runIn store).2

/-- An operation shows and answers the same whether or not payloads are shared. -/
theorem runIn_performAlone (operation : Operation ι) (store : ShapeStore ι) :
    operation.performAlone.runIn store.payload? =
      (operation.perform.runIn store).map id Store.payload? := by
  cases operation with
  | create name payload => exact Prod.ext rfl (store.payload?_create_eq name payload).symm
  | createNested name polygons =>
      simp only [performAlone, perform, Procedure.runIn]
      cases MultiPolygon.ofCoordinates polygons with
      | error error => rfl
      | ok payload => exact Prod.ext rfl (store.payload?_create_eq name payload).symm
  | createFrom name reference? payload =>
      cases reference? with
      | none => exact Prod.ext rfl (store.payload?_create_eq name payload).symm
      | some reference =>
          exact Prod.ext rfl (store.payload?_createFrom_eq name reference payload).symm
  | copy name source deep => exact Prod.ext rfl (store.payload?_copy_eq name source deep).symm
  | replace name payload => exact Prod.ext rfl (store.payload?_replace_eq name payload).symm
  | reset name => exact Prod.ext rfl (store.payload?_replace_eq name .empty).symm
  | absorb name source =>
      rw [perform, Store.runIn_absorb]
      simp only [performAlone, Procedure.runIn]
      cases source.update with
      | error error => rfl
      | ok update => exact Prod.ext rfl (store.payload?_apply name update).symm
  | write name change => exact Prod.ext rfl (store.payload?_modify_eq name change).symm
  | discard name => exact Prod.ext rfl (store.payload?_erase_eq name).symm

omit [Ord ι] [Std.TransOrd ι] [Std.LawfulEqOrd ι] in
/-- An operation is noticed only at the names that it is about. -/
theorem performAlone_of_not_mem {operation : Operation ι} {other : ι}
    (hOther : other ∉ operation.targets) (view : View ι) :
    (operation.performAlone.runIn view).2 other = view other := by
  cases operation with
  | create name payload => exact Function.update_of_ne (List.ne_of_not_mem_cons hOther) _ _
  | createNested name polygons =>
      simp only [performAlone, Procedure.runIn]
      cases MultiPolygon.ofCoordinates polygons with
      | error error => rfl
      | ok payload => exact Function.update_of_ne (List.ne_of_not_mem_cons hOther) _ _
  | createFrom name reference? payload =>
      cases reference? with
      | none => exact Function.update_of_ne (List.ne_of_not_mem_cons hOther) _ _
      | some reference =>
          have hReference : other ≠ reference :=
            List.ne_of_not_mem_cons (List.not_mem_of_not_mem_cons hOther)
          exact (Function.update_of_ne (List.ne_of_not_mem_cons hOther) _ _).trans
            (Function.update_of_ne hReference _ _)
  | copy name source deep => exact View.copy_of_ne (List.ne_of_not_mem_cons hOther) view source
  | replace name payload => exact Function.update_of_ne (List.ne_of_not_mem_cons hOther) _ _
  | reset name => exact Function.update_of_ne (List.ne_of_not_mem_cons hOther) _ _
  | absorb name source =>
      simp only [performAlone, Procedure.runIn]
      cases source.update with
      | error error => rfl
      | ok update => exact update.applyTo_of_ne (List.ne_of_not_mem_cons hOther) view
  | write name change => exact Function.update_of_ne (List.ne_of_not_mem_cons hOther) _ _
  | discard name => exact Function.update_of_ne (List.ne_of_not_mem_cons hOther) _ _

/-- No container but the targets of an operation shows anything else after it. -/
theorem payload?_after {operation : Operation ι} {other : ι}
    (hOther : other ∉ operation.targets) (store : ShapeStore ι) :
    (operation.after store).payload? other = store.payload? other := by
  have hAlone := performAlone_of_not_mem hOther store.payload?
  rw [runIn_performAlone] at hAlone
  exact hAlone

end Operation

/-- What the operations of a session answer, and the state behind them. -/
def session {σ : Type} (perform : Operation ι → Procedure σ Unit) :
    List (Operation ι) → σ → List (Except Error Unit) × σ
  | [], state => ([], state)
  | operation :: operations, state =>
    let (answer, next) := (perform operation).runIn state
    let (answers, last) := session perform operations next
    (answer :: answers, last)

/-- If every operation can be seen through a view of the state, so can every session. -/
theorem session_map {σ τ : Type} {perform : Operation ι → Procedure σ Unit}
    {performed : Operation ι → Procedure τ Unit} {view : σ → τ}
    (hStep : ∀ operation state, (performed operation).runIn (view state) =
      ((perform operation).runIn state).map id view)
    (operations : List (Operation ι)) (state : σ) :
    session performed operations (view state) = (session perform operations state).map id view := by
  -- A session goes on from whatever state an operation leaves, also one that failed.
  induction operations generalizing state with
  | nil => rfl
  | cons operation operations ih =>
      simp only [session, hStep, Prod.map_fst, Prod.map_snd, ih]
      rfl

section

variable [Ord ι] [Std.TransOrd ι] [Std.LawfulEqOrd ι] [DecidableEq ι]

/-- Sharing cannot be seen: every session answers and shows the same as if each container had a
payload of its own, and no operation changes what is shown by a container that it is not done to.
Containers that share show the same. A shallow copy shares with its original, a container with
the one whose payload it adopts; a deep copy does not share with its original, and a container
that was written to shares with no other one. -/
theorem session_shows_private_payloads (operations : List (Operation ι))
    {answers : List (Except Error Unit)} {store : ShapeStore ι}
    (hSession : session Operation.perform operations .empty = (answers, store)) :
    session Operation.performAlone operations (fun _ => none) = (answers, store.payload?) ∧
    (∀ (operation : Operation ι) (other : ι), other ∉ operation.targets →
      (operation.after store).payload? other = store.payload? other) ∧
    (∀ first second, store.shares first second = true →
      store.payload? first = store.payload? second) ∧
    (∀ name source, (store.payload? source).isSome = true →
      ((Operation.copy name source false).after store).shares name source = true) ∧
    (∀ name source, name ≠ source →
      ((Operation.copy name source true).after store).shares name source = false) ∧
    (∀ name source payload, store.payload? source = some payload → payload.isEmpty = false →
      ∀ container ∈ [Source.container source, .dynamic (.container source)],
        ((Operation.absorb name container).after store).shares name source = true) ∧
    (∀ name other change, other ≠ name →
      ((Operation.write name change).after store).shares name other = false) := by
  refine ⟨?_, ?_, ?_, ?_, ?_, ?_, ?_⟩
  · have hEmpty : (fun _ => none) = (Store.empty : ShapeStore ι).payload? := by
      funext name
      rfl
    rw [hEmpty, session_map Operation.runIn_performAlone, hSession]
    rfl
  · intro operation other hOther
    exact Operation.payload?_after hOther store
  · intro first second hShares
    exact Store.payload?_eq_of_shares hShares
  · intro name source hSource
    exact Store.shares_copy hSource
  · intro name source hName
    exact Store.shares_copy_deep hName.symm
  · intro name source payload hPayload hNonempty container hContainer
    have hUpdate : container.update = .ok (.share source) := by
      rcases List.mem_pair.mp hContainer with rfl | rfl <;> rfl
    exact Store.shares_absorb hUpdate hPayload hNonempty
  · intro name other change hOther
    exact Store.shares_modify hOther change

end

/-- A shallow copy that is written to and then adopted, behind nested lists that are no
multi-polygon. -/
theorem session_written_copy :
    let written (shape : Shape) : Shape := (shape.setPoint 0 0 0 ⟨3, 4⟩).toOption.getD shape
    let operations : List (Operation Nat) :=
      [.create 0 (.ofPoint ⟨1, 2⟩), .copy 1 0 false, .write 1 written,
        .createNested 2 [[[[5]]]], .absorb 0 (.container 1)]
    let answers : List (Except Error Unit) :=
      [.ok (), .ok (), .ok (), .error (.invalidPoint "[5.0]"), .ok ()]
    ∃ store,
      session Operation.perform operations .empty = (answers, store) ∧
      session Operation.performAlone operations (fun _ => none) = (answers, store.payload?) ∧
      store.payload? 0 = some (.ofPoint ⟨3, 4⟩) ∧
      store.shares 0 1 = true ∧ store.payload? 0 = store.payload? 1 ∧
      ((Operation.copy 2 0 false).after store).shares 2 0 = true ∧
      ((Operation.copy 2 0 true).after store).shares 2 0 = false ∧
      ((Operation.absorb 2 (.container 0)).after store).shares 2 0 = true ∧
      ((Operation.write 0 written).after store).shares 0 1 = false ∧
      ((Operation.write 0 written).after store).payload? 1 = store.payload? 1 := by
  intro written operations answers
  have hSession : session Operation.perform operations .empty =
      (answers, (session Operation.perform operations .empty).2) := by
    refine Prod.ext ?_ rfl
    decide +kernel
  obtain ⟨hAlone, hOthers, hSame, hShallow, hDeep, hAdopt, hWritten⟩ :=
    session_shows_private_payloads operations hSession
  refine ⟨_, hSession, hAlone, ?_⟩
  have hPayload : (session Operation.perform operations .empty).2.payload? 0 =
      some (.ofPoint ⟨3, 4⟩) := by
    decide +kernel
  have hShares : (session Operation.perform operations .empty).2.shares 0 1 = true := by
    decide +kernel
  exact ⟨hPayload, hShares, hSame 0 1 hShares,
    hShallow 2 0 (Option.isSome_of_eq_some hPayload), hDeep 2 0 (by decide),
    hAdopt 2 0 _ hPayload rfl _ List.mem_cons_self, hWritten 0 1 written (by decide),
    hOthers (.write 0 written) 1 (by decide)⟩

end DbClient
