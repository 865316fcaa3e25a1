import DbClient.Proofs.Fault
import DbClient.Proofs.Setting.Typing
import DbClient.Setting.Discovery

/-! Properties read through a catalog. Main statement: `assign_eq_ok_iff`, by which properties are
accepted if every text that a known key comes with can be read, and then set what the keys mean to
what the texts denote, the last property with a meaning counting. -/

namespace DbClient.Setting

/-- Settings that can be in use together: the built-in ones and the fallbacks are among them, and
those with the same scope and key are declared with the same type. -/
structure IsPublication (published : Set Descriptor) : Prop where
  builtin : ∀ setting ∈ Builtin.all, setting ∈ published
  fallback : ∀ setting ∈ Fallback.all, setting ∈ published
  consistent : IsConsistent published

/-- Settings with different identities may be published together with those of the library. -/
theorem isPublication_of_nodup {others : List Descriptor}
    (hIds : ((Builtin.all ++ Fallback.all ++ others).map Descriptor.id).Nodup) :
    IsPublication {setting | setting ∈ Builtin.all ++ Fallback.all ++ others} where
  builtin _ hSetting := List.mem_append_left _ (List.mem_append_left _ hSetting)
  fallback _ hSetting := List.mem_append_left _ (List.mem_append_right _ hSetting)
  consistent _ hSetting _ hOther hId :=
    congrArg Descriptor.type (List.inj_on_of_nodup_map hIds hSetting hOther hId)

/-- A setting as a client contributes it. -/
def maxFrameSize : Descriptor :=
  ⟨"http", "max_frame_size", .long 65536, "Largest frame in bytes that is accepted."⟩

/-- All settings where there is one that a client contributes. -/
def framedSettings : Set Descriptor :=
  {setting | setting ∈ Builtin.all ++ Fallback.all ++ [maxFrameSize]}

theorem isPublication_framedSettings : IsPublication framedSettings :=
  isPublication_of_nodup (by decide +kernel)

namespace Catalog

variable {published : Set Descriptor} {catalog : Catalog} {setting : Descriptor} {key : String}
  {assignment settings : Assignment} {property : String × String}
  {properties : List (String × String)}

/-- The catalogs that published settings are contributed to. -/
inductive Built (published : Set Descriptor) : Catalog → Prop where
  | builtin : Built published .builtin
  | register {catalog : Catalog} {setting : Descriptor} (hCatalog : Built published catalog)
      (hSetting : setting ∈ published) : Built published (catalog.register setting)

/-- The catalog of `framedSettings`. -/
def framed : Catalog := builtin.register maxFrameSize

theorem built_framed : framed.Built framedSettings :=
  .register .builtin (List.mem_append_right _ (by decide))

/-- A catalog stays built when published settings are registered. -/
theorem Built.registerAll (hBuilt : Built published catalog) {contributed : List Descriptor}
    (hContributed : ∀ setting ∈ contributed, setting ∈ published) :
    Built published (catalog.registerAll contributed) := by
  induction contributed generalizing catalog with
  | nil => exact hBuilt
  | cons setting rest ih =>
      exact ih (hBuilt.register (hContributed setting List.mem_cons_self))
        fun later hLater => hContributed later (List.mem_cons_of_mem setting hLater)

/-- A catalog stays built when clients contribute published settings. -/
theorem Built.registerSets {contributions : List Contribution} {sets : List (List Descriptor)}
    (hBuilt : Built published catalog)
    (hContributions : ∀ contribution ∈ contributions, ∀ contributed,
      contribution.settings? = some contributed → ∀ setting ∈ contributed, setting ∈ published)
    (hSets : contributions.mapM Contribution.settings? = some sets) :
    Built published (sets.foldl Catalog.registerAll catalog) := by
  induction contributions generalizing catalog sets with
  | nil =>
      cases hSets
      exact hBuilt
  | cons contribution rest ih =>
      rw [List.mapM_cons] at hSets
      obtain ⟨contributed, hContributed, hSets⟩ := Option.bind_eq_some_iff.mp hSets
      obtain ⟨others, hOthers, hSets⟩ := Option.bind_eq_some_iff.mp hSets
      cases hSets
      rw [List.foldl_cons]
      refine ih (hBuilt.registerAll ?_)
        (fun other hOther => hContributions other (List.mem_cons_of_mem _ hOther)) hOthers
      exact hContributions contribution List.mem_cons_self contributed hContributed

/-- Whatever comes of a discovery, its catalog is one that settings are contributed to. -/
theorem built_discover {discovery : Discovery}
    (hDiscovery : ∀ contributions, discovery = .clients contributions →
      ∀ contribution ∈ contributions, ∀ contributed,
        contribution.settings? = some contributed → ∀ setting ∈ contributed, setting ∈ published) :
    Built published (discover discovery) := by
  cases discovery with
  | failed error => exact .builtin
  | crashed => exact .builtin
  | clients contributions =>
      rw [discover]
      cases hSets : contributions.mapM Contribution.settings? with
      | none => exact .builtin
      | some sets => exact Built.builtin.registerSets (hDiscovery contributions rfl) hSets

/-- A setting of the library is found by its key. -/
theorem key_and_mem_of_builtin? (hFound : builtin? key = some setting) :
    setting.key = key ∧ setting ∈ Builtin.all ++ Fallback.properties := by
  rcases Option.or_eq_some_iff.mp hFound with hFound | ⟨-, hFound⟩
  · rw [Builtin.find?] at hFound
    exact ⟨by simpa using List.find?_some hFound,
      List.mem_append_left _ (List.mem_of_find?_eq_some hFound)⟩
  · rw [Fallback.findProperty?] at hFound
    exact ⟨by simpa using List.find?_some hFound,
      List.mem_append_right _ (List.mem_of_find?_eq_some hFound)⟩

/-- A contributed setting that is found by a key has this key and is published. -/
theorem Built.contributed? (hBuilt : Built published catalog)
    (hFound : catalog.contributed? key = some setting) :
    setting.key = key ∧ setting ∈ published := by
  induction hBuilt with
  | builtin => cases hFound
  | register _ hSetting ih =>
      rw [Catalog.contributed?, Catalog.register, SortedMap.get?_insert] at hFound
      split at hFound
      · rename_i hKey
        cases hFound
        exact ⟨hKey.symm, hSetting⟩
      · exact ih hFound

/-- A key means a published setting with this key. -/
theorem Built.resolve? (hBuilt : Built published catalog) (hPublication : IsPublication published)
    (hResolve : catalog.resolve? key = some setting) : setting.key = key ∧ setting ∈ published := by
  rcases Option.or_eq_some_iff.mp hResolve with hFound | ⟨-, hFound⟩
  · obtain ⟨hKey, hMem⟩ := key_and_mem_of_builtin? hFound
    refine ⟨hKey, ?_⟩
    rcases List.mem_append.mp hMem with hMem | hMem
    · exact hPublication.builtin setting hMem
    · have hFallback : Fallback.properties ⊆ Fallback.all := by decide
      exact hPublication.fallback setting (hFallback hMem)
  · exact hBuilt.contributed? hFound

/-- What a property sets, if its key means a setting that can read its text. -/
def entryOf? (catalog : Catalog) (property : String × String) : Option (Id × Value) :=
  (catalog.resolve? property.1).bind fun setting =>
    (Value.parse property.2 setting.type).toOption.map fun value => (setting.id, value)

/-- Whether the setting that the key of a property means, if any, can read its text. -/
def Accepts (catalog : Catalog) (property : String × String) : Prop :=
  ∀ setting, catalog.resolve? property.1 = some setting →
    ∃ value, Value.parse property.2 setting.type = .ok value

/-- A property makes an entry exactly if its key is known and its text is one of the type. -/
theorem entryOf?_eq_some_iff {entry : Id × Value} :
    catalog.entryOf? property = some entry ↔ ∃ setting, catalog.resolve? property.1 = some setting ∧
      setting.id = entry.1 ∧ Value.parse property.2 setting.type = .ok entry.2 := by
  rw [entryOf?, Option.bind_eq_some_iff]
  refine exists_congr fun setting => and_congr_right fun _ => ?_
  cases Value.parse property.2 setting.type <;> simp [Except.toOption, Prod.ext_iff]

/-- One property is assigned exactly if it is accepted, and then its entry is added. -/
theorem assignOne_eq_ok_iff : catalog.assignOne assignment property = .ok settings ↔
    catalog.Accepts property ∧
      assignment.insertAll (catalog.entryOf? property).toList = settings := by
  rw [assignOne, Accepts, entryOf?]
  cases catalog.resolve? property.1 with
  | none => simp [SortedMap.insertAll]
  | some setting =>
      simp only [Assignment.setText_eq_ok_iff, Option.some.injEq, forall_eq', Option.bind_some]
      cases Value.parse property.2 setting.type <;> simp [Except.toOption, SortedMap.insertAll]

/-- Reading on from an assignment puts what the properties mean over it. -/
theorem foldlM_assignOne_eq_ok_iff :
    properties.foldlM catalog.assignOne assignment = .ok settings ↔
      (∀ property ∈ properties, catalog.Accepts property) ∧
        assignment.insertAll (properties.filterMap catalog.entryOf?) = settings := by
  induction properties generalizing assignment with
  | nil => simp [SortedMap.insertAll, pure, Except.pure]
  | cons property rest ih =>
      rw [List.foldlM_cons, List.forall_mem_cons]
      cases hStep : catalog.assignOne assignment property with
      | error error =>
          have hRefused : ¬ catalog.Accepts property := by
            intro hAccepts
            have hAccepted : catalog.assignOne assignment property =
                .ok (assignment.insertAll (catalog.entryOf? property).toList) :=
              assignOne_eq_ok_iff.mpr ⟨hAccepts, rfl⟩
            rw [hStep] at hAccepted
            cases hAccepted
          simp [hRefused, bind, Except.bind]
      | ok next =>
          obtain ⟨hAccepts, rfl⟩ := assignOne_eq_ok_iff.mp hStep
          refine ih.trans ?_
          cases hEntry : catalog.entryOf? property <;>
            simp [hAccepts, hEntry, SortedMap.insertAll]

theorem assign_eq_ok_iff : catalog.assign properties = .ok settings ↔
    (∀ property ∈ properties, catalog.Accepts property) ∧
      .ofList (properties.filterMap catalog.entryOf?) = settings :=
  foldlM_assignOne_eq_ok_iff

/-- Assigning a property is an edit. -/
theorem Built.reachable_assignOne (hBuilt : Built published catalog)
    (hPublication : IsPublication published) (hAssignment : assignment.Reachable published)
    (hAssign : catalog.assignOne assignment property = .ok settings) :
    settings.Reachable published := by
  rw [assignOne] at hAssign
  cases hResolve : catalog.resolve? property.1 with
  | none =>
      rw [hResolve] at hAssign
      cases hAssign
      exact hAssignment
  | some setting =>
      rw [hResolve] at hAssign
      exact hAssignment.setText (hBuilt.resolve? hPublication hResolve).2 hAssign

/-- What properties set is set through published settings. -/
theorem Built.reachable_assign (hBuilt : Built published catalog)
    (hPublication : IsPublication published) (hAssign : catalog.assign properties = .ok settings) :
    settings.Reachable published :=
  invariant_foldlM (fun _ _ _ => hBuilt.reachable_assignOne hPublication) .empty hAssign

end Catalog

end DbClient.Setting
