import DbClient.Procedure
import DbClient.Proofs.Setting.ValueText
import DbClient.Setting.Catalog
import Mathlib.Data.Set.Defs
import Mathlib.Logic.Function.Basic

/-! Values of settings and the types that these are declared with. A value is checked against the
setting that it is assigned through, but kept under the scope and key of that setting alone. Main
statement: `typed_iff_consistent` says that whatever is done with assignments, every value is of
the type of the setting that it is looked up through, exactly if published settings with the same
scope and key are declared with the same type. -/

namespace DbClient.Setting

variable {ι : Type} {published : Set Descriptor}

/-- Published settings with the same scope and key are declared with the same type. -/
def IsConsistent (published : Set Descriptor) : Prop :=
  ∀ setting ∈ published, ∀ other ∈ published, setting.id = other.id → setting.type = other.type

namespace Assignment

variable {assignment changed lower upper : Assignment} {setting : Descriptor} {value : Value}
  {text : String}

theorem set_eq_ok_iff : assignment.set setting value = .ok changed ↔
    value.type = setting.type ∧ assignment.insert setting.id value = changed := by
  by_cases hType : value.type = setting.type <;> simp [Assignment.set, hType]

theorem setText_eq_ok_iff : assignment.setText setting text = .ok changed ↔
    ∃ value, Value.parse text setting.type = .ok value ∧
      assignment.insert setting.id value = changed := by
  cases hParse : Value.parse text setting.type <;>
    simp [setText, Descriptor.parse, hParse, Except.map, Except.mapError]

/-- Every value is of the type that some published setting with its scope and key is declared
with. -/
def IsTyped (published : Set Descriptor) (assignment : Assignment) : Prop :=
  ∀ id value, assignment.get? id = some value →
    ∃ setting ∈ published, setting.id = id ∧ setting.type = value.type

theorem isTyped_empty : IsTyped published .empty := by
  intro id value hGet
  cases hGet

/-- Inserting a value of the declared type keeps all values of their types. -/
theorem IsTyped.insert (hTyped : IsTyped published assignment) (hSetting : setting ∈ published)
    (hType : value.type = setting.type) :
    IsTyped published (assignment.insert setting.id value) := by
  intro id found hGet
  rw [SortedMap.get?_insert] at hGet
  split at hGet
  · rename_i hId
    cases hGet
    exact ⟨setting, hSetting, hId.symm, hType.symm⟩
  · exact hTyped id found hGet

/-- Erasing a value keeps the others of their types. -/
theorem IsTyped.erase (hTyped : IsTyped published assignment) (id : Id) :
    IsTyped published (assignment.erase id) := by
  intro other found hGet
  rw [SortedMap.get?_erase] at hGet
  split at hGet
  · cases hGet
  · exact hTyped other found hGet

/-- Laying assignments over each other keeps all values of their types. -/
theorem IsTyped.overlay (hLower : IsTyped published lower) (hUpper : IsTyped published upper) :
    IsTyped published (lower.overlay upper) := by
  intro id found hGet
  rw [SortedMap.get?_overlay] at hGet
  rcases Option.or_eq_some_iff.mp hGet with hGet | ⟨-, hGet⟩
  · exact hUpper id found hGet
  · exact hLower id found hGet

/-- The assignments that can be made with published settings. -/
inductive Reachable (published : Set Descriptor) : Assignment → Prop where
  | empty : Reachable published .empty
  | set {assignment changed : Assignment} {setting : Descriptor} {value : Value}
      (hAssignment : Reachable published assignment) (hSetting : setting ∈ published)
      (hSet : assignment.set setting value = .ok changed) : Reachable published changed
  | setText {assignment changed : Assignment} {setting : Descriptor} {text : String}
      (hAssignment : Reachable published assignment) (hSetting : setting ∈ published)
      (hSet : assignment.setText setting text = .ok changed) : Reachable published changed
  | erase {assignment : Assignment} (hAssignment : Reachable published assignment) (id : Id) :
      Reachable published (assignment.erase id)
  | overlay {lower upper : Assignment} (hLower : Reachable published lower)
      (hUpper : Reachable published upper) : Reachable published (lower.overlay upper)

/-- Whatever edits an assignment comes of, all its values are of their types. -/
theorem Reachable.isTyped (hReachable : Reachable published assignment) :
    IsTyped published assignment := by
  induction hReachable with
  | empty => exact isTyped_empty
  | set _ hSetting hSet ih =>
      obtain ⟨hType, rfl⟩ := set_eq_ok_iff.mp hSet
      exact ih.insert hSetting hType
  | setText _ hSetting hSet ih =>
      obtain ⟨value, hParse, rfl⟩ := setText_eq_ok_iff.mp hSet
      exact ih.insert hSetting (Value.type_of_parse hParse)
  | erase _ id ih => exact ih.erase id
  | overlay _ _ ihLower ihUpper => exact ihLower.overlay ihUpper

/-- Where published settings are consistent, a value is of the type of every setting that it is
looked up through. -/
theorem IsTyped.type_eq (hTyped : IsTyped published assignment)
    (hConsistent : IsConsistent published) (hSetting : setting ∈ published)
    (hGet : assignment.get? setting.id = some value) : value.type = setting.type := by
  obtain ⟨other, hOther, hId, hType⟩ := hTyped setting.id value hGet
  exact hType.symm.trans (hConsistent other hOther setting hSetting hId)

end Assignment

/-- What is done with assignments that are known by names. -/
inductive Edit (ι : Type) where
  | set (name : ι) (setting : Descriptor) (value : Value)
  | setText (name : ι) (setting : Descriptor) (text : String)
  | unset (name : ι) (setting : Descriptor)
  /-- Lays all of another assignment over one. -/
  | overlay (name other : ι)
  | copy (name source : ι)

namespace Edit

/-- The assignment that an edit is done to. -/
def target : Edit ι → ι
  | set name _ _ => name
  | setText name _ _ => name
  | unset name _ => name
  | overlay name _ => name
  | copy name _ => name

/-- The setting that an edit assigns a value through. -/
def assigned? : Edit ι → Option Descriptor
  | set _ setting _ => some setting
  | setText _ setting _ => some setting
  | unset _ _ => none
  | overlay _ _ => none
  | copy _ _ => none

/-- What an edit makes of its target. -/
def result (assignments : ι → Assignment) : Edit ι → Except Error Assignment
  | set name setting value => (assignments name).set setting value
  | setText name setting text => (assignments name).setText setting text
  | unset name setting => .ok ((assignments name).erase setting.id)
  | overlay name other => .ok ((assignments name).overlay (assignments other))
  | copy _ source => .ok (assignments source)

variable [DecidableEq ι]

def perform (edit : Edit ι) : Procedure (ι → Assignment) Unit := do
  let changed ← edit.result (← get)
  modify fun assignments => Function.update assignments edit.target changed

/-- The assignments after an edit, whether it was refused or not. -/
def after (edit : Edit ι) (assignments : ι → Assignment) : ι → Assignment :=
  (edit.perform.runIn assignments).2

/-- The assignments after a list of edits, all of them empty at first. -/
def afterAll (edits : List (Edit ι)) : ι → Assignment :=
  edits.foldl (fun assignments edit => edit.after assignments) fun _ => .empty

/-- An edit is computed before anything is written, so one that is refused writes nothing. -/
theorem runIn_perform (edit : Edit ι) (assignments : ι → Assignment) :
    edit.perform.runIn assignments =
      match edit.result assignments with
      | .error error => (.error error, assignments)
      | .ok changed => (.ok (), Function.update assignments edit.target changed) := by
  unfold perform Procedure.runIn
  show ((do
    let changed ← edit.result assignments
    modify fun assignments => Function.update assignments edit.target changed :
      Procedure (ι → Assignment) Unit).run).run assignments = _
  cases edit.result assignments <;> rfl

omit [DecidableEq ι] in
/-- What an edit of reachable assignments makes is reachable. -/
theorem reachable_result {edit : Edit ι} {assignments : ι → Assignment} {changed : Assignment}
    (hReachable : ∀ name, (assignments name).Reachable published)
    (hAssigned : ∀ setting ∈ edit.assigned?, setting ∈ published)
    (hResult : edit.result assignments = .ok changed) : changed.Reachable published := by
  cases edit with
  | set name setting value => exact .set (hReachable name) (hAssigned setting rfl) hResult
  | setText name setting text => exact .setText (hReachable name) (hAssigned setting rfl) hResult
  | unset name setting =>
      cases hResult
      exact .erase (hReachable name) setting.id
  | overlay name other =>
      cases hResult
      exact .overlay (hReachable name) (hReachable other)
  | copy name source =>
      cases hResult
      exact hReachable source

/-- An edit keeps all assignments reachable. -/
theorem reachable_after {edit : Edit ι} {assignments : ι → Assignment}
    (hReachable : ∀ name, (assignments name).Reachable published)
    (hAssigned : ∀ setting ∈ edit.assigned?, setting ∈ published) (name : ι) :
    (edit.after assignments name).Reachable published := by
  rw [after, runIn_perform]
  cases hResult : edit.result assignments with
  | error error => exact hReachable name
  | ok changed =>
      show (Function.update assignments edit.target changed name).Reachable published
      by_cases hName : name = edit.target
      · subst hName
        rw [Function.update_self]
        exact reachable_result hReachable hAssigned hResult
      · rw [Function.update_of_ne hName]
        exact hReachable name

/-- Edits from the beginning keep all assignments reachable. -/
theorem reachable_afterAll {edits : List (Edit ι)}
    (hAssigned : ∀ edit ∈ edits, ∀ setting ∈ edit.assigned?, setting ∈ published) (name : ι) :
    (afterAll edits name).Reachable published := by
  suffices hFrom : ∀ assignments : ι → Assignment,
      (∀ name, (assignments name).Reachable published) → ∀ name,
        (edits.foldl (fun built edit => edit.after built) assignments name).Reachable published from
    hFrom (fun _ => .empty) (fun _ => .empty) name
  induction edits with
  | nil => exact fun assignments hReachable => hReachable
  | cons edit edits ih =>
      intro assignments hReachable
      refine ih (fun later hLater => hAssigned later (List.mem_cons_of_mem edit hLater))
        (edit.after assignments) fun name => ?_
      exact reachable_after hReachable (hAssigned edit List.mem_cons_self) name

/-- A value that is set is found. -/
theorem get?_after_set (assignments : ι → Assignment) (name : ι) (setting : Descriptor)
    {value : Value} (hType : value.type = setting.type) :
    ((set name setting value).after assignments name).get? setting.id = some value := by
  have hResult : (set name setting value).result assignments =
      .ok ((assignments name).insert setting.id value) :=
    Assignment.set_eq_ok_iff.mpr ⟨hType, rfl⟩
  rw [after, runIn_perform, hResult]
  show (Function.update assignments name _ name).get? setting.id = some value
  rw [Function.update_self, SortedMap.get?_insert, if_pos rfl]

/-- An edit that is refused changes nothing. -/
theorem runIn_perform_refused {edit : Edit ι} {assignments : ι → Assignment} {error : Error}
    (hRefused : (edit.perform.runIn assignments).1 = .error error) :
    (edit.perform.runIn assignments).2 = assignments := by
  rw [runIn_perform] at hRefused ⊢
  cases hResult : edit.result assignments with
  | error error => rfl
  | ok changed =>
      rw [hResult] at hRefused
      cases hRefused

end Edit

variable [DecidableEq ι] [Inhabited ι]

/-- Whatever is done with assignments through published settings, every value is of the type of
the setting that it is looked up through, exactly if published settings with the same scope and
key are declared with the same type. In any case it is of the type that one of them is declared
with. An edit that is refused changes nothing. -/
theorem typed_iff_consistent (published : Set Descriptor) :
    ((∀ edits : List (Edit ι), (∀ edit ∈ edits, ∀ setting ∈ edit.assigned?, setting ∈ published) →
        ∀ name, ∀ setting ∈ published, ∀ value,
          (Edit.afterAll edits name).get? setting.id = some value → value.type = setting.type) ↔
      IsConsistent published) ∧
    (∀ edits : List (Edit ι), (∀ edit ∈ edits, ∀ setting ∈ edit.assigned?, setting ∈ published) →
      ∀ name id value, (Edit.afterAll edits name).get? id = some value →
        ∃ setting ∈ published, setting.id = id ∧ setting.type = value.type) ∧
    ∀ (edit : Edit ι) (assignments : ι → Assignment) (error : Error),
      (edit.perform.runIn assignments).1 = .error error →
        (edit.perform.runIn assignments).2 = assignments := by
  refine ⟨⟨fun hTyped => ?_, fun hConsistent => ?_⟩, fun edits hAssigned name => ?_,
    fun _ _ _ => Edit.runIn_perform_refused⟩
  · intro setting hSetting other hOther hId
    -- The default of one setting is looked up through the other one.
    have hAssigned : ∀ edit ∈ [Edit.set (default : ι) setting setting.default],
        ∀ used ∈ edit.assigned?, used ∈ published := by
      intro edit hEdit used hUsed
      cases List.mem_singleton.mp hEdit
      cases hUsed
      exact hSetting
    have hGet := Edit.get?_after_set (fun _ => .empty) (default : ι) setting
      (rfl : setting.default.type = setting.type)
    rw [hId] at hGet
    exact hTyped _ hAssigned default other hOther setting.default hGet
  · intro edits hAssigned name setting hSetting value hGet
    exact (Edit.reachable_afterAll hAssigned name).isTyped.type_eq hConsistent hSetting hGet
  · exact (Edit.reachable_afterAll hAssigned name).isTyped

/-- A setting under the scope and key of a built-in flag, declared with a whole number. -/
def wholeSsl : Descriptor := ⟨"client", "ssl", .int 0, "Whether to use SSL/TLS, as a number."⟩

/-- The built-in settings, together with one that a client contributes in the place of one of
them. -/
def shadowedSettings : Set Descriptor :=
  {setting | setting ∈ Builtin.all ++ (Catalog.builtin.register wholeSsl).contributions}

/-- Two settings with one identity and different types leave a value of the wrong type. -/
theorem untyped_shadowedSettings :
    ¬ ∀ edits : List (Edit Unit),
      (∀ edit ∈ edits, ∀ setting ∈ edit.assigned?, setting ∈ shadowedSettings) →
        ∀ name, ∀ setting ∈ shadowedSettings, ∀ value,
          (Edit.afterAll edits name).get? setting.id = some value → value.type = setting.type := by
  intro hTyped
  have hBuiltin : Builtin.ssl ∈ shadowedSettings := List.mem_append_left _ (by decide)
  have hWhole : wholeSsl ∈ shadowedSettings := List.mem_append_right _ (by decide)
  have hGet : (Edit.afterAll [.setText () Builtin.ssl "true"] ()).get? wholeSsl.id =
      some (.flag true) := by
    decide +kernel
  have hType := hTyped [.setText () Builtin.ssl "true"]
    (by simpa [Edit.assigned?] using hBuiltin) () wholeSsl hWhole (.flag true) hGet
  cases hType

end DbClient.Setting
