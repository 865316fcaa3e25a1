import DbClient.Proofs.Session.Reachable

/-! Configurations written as properties and read back. Writing and reading meet at `Depicts`, what
a list of properties says about an assignment. Main statement: `properties_round_trip`, by which a
configuration is read back exactly if each of its keys means the setting that it was set through. -/

namespace DbClient

open Setting

namespace Setting

variable {published : Set Descriptor} {catalog : Catalog} {settings : Assignment}
  {properties : List (String × String)}

/-- Properties with texts of the values that are set, under the keys of their settings. -/
structure Depicts (properties : List (String × String)) (settings : Assignment) : Prop where
  complete : ∀ id value, settings.get? id = some value → ∃ text, (id.key, text) ∈ properties
  sound : ∀ property ∈ properties, ∃ id value, settings.get? id = some value ∧
    property.1 = id.key ∧ Value.parse property.2 value.type = .ok value

/-- The values that are set, each written under the key of its setting. -/
def Assignment.writtenBy {α : Type} (write : Id → Value → α) (settings : Assignment) :
    List (String × α) :=
  (SortedMap.ofList
    (settings.entries.map fun entry => (entry.1.key, write entry.1 entry.2))).entries

theorem Assignment.mem_of_mem_writtenBy {α : Type} {write : Id → Value → α} {member : String × α}
    (hMember : member ∈ settings.writtenBy write) :
    ∃ id value, settings.get? id = some value ∧ member = (id.key, write id value) := by
  obtain ⟨⟨id, value⟩, hEntry, hWritten⟩ := List.mem_map.mp
    (SortedMap.mem_of_get?_ofList (SortedMap.mem_entries_iff.mp hMember))
  exact ⟨id, value, SortedMap.mem_entries_iff.mp hEntry, hWritten.symm⟩

theorem Assignment.exists_mem_writtenBy {α : Type} (write : Id → Value → α) {id : Id}
    {value : Value} (hGet : settings.get? id = some value) :
    ∃ written, (id.key, written) ∈ settings.writtenBy write := by
  obtain ⟨written, hWritten⟩ := SortedMap.exists_get?_ofList
    (List.mem_map_of_mem (f := fun entry : Id × Value => (entry.1.key, write entry.1 entry.2))
      (SortedMap.mem_entries_iff.mpr hGet))
  exact ⟨written, SortedMap.mem_entries_iff.mpr hWritten⟩

/-- The texts of values depict an assignment. -/
theorem depicts_toText (settings : Assignment) :
    Depicts (settings.writtenBy fun _ value => value.toText) settings where
  complete _ _ hGet := Assignment.exists_mem_writtenBy _ hGet
  sound property hProperty := by
    obtain ⟨id, value, hGet, rfl⟩ := Assignment.mem_of_mem_writtenBy hProperty
    exact ⟨id, value, hGet, rfl, Value.parse_toText_type value⟩

/-- How values are written in an object: by their texts, or flags and whole numbers as such. -/
inductive IsWrittenAs : Value → Json → Prop where
  | text (value : Value) : IsWrittenAs value (.string value.toText)
  | flag (value : Bool) : IsWrittenAs (.flag value) (.bool value)
  | int (value : Int32) : IsWrittenAs (.int value) (.integer value.toInt)
  | long (value : Int64) : IsWrittenAs (.long value) (.integer value.toInt)

/-- However a value is written, it is read by its text. -/
theorem IsWrittenAs.propertyOf? {value : Value} {json : Json} (hWritten : IsWrittenAs value json)
    (key : String) : Catalog.propertyOf? (key, json) = some (key, value.toText) := by
  cases hWritten with
  | text value => rfl
  | flag value => cases value <;> rfl
  | int value => rfl
  | long value => rfl

/-- Members of a document depict an assignment if each is written as its value. -/
theorem depicts_members {write : Id → Value → Json}
    (hWrite : ∀ id value, settings.get? id = some value → IsWrittenAs value (write id value)) :
    Depicts ((settings.writtenBy write).filterMap Catalog.propertyOf?) settings where
  complete id value hGet := by
    obtain ⟨json, hMember⟩ := Assignment.exists_mem_writtenBy write hGet
    obtain ⟨other, found, hFound, hEq⟩ := Assignment.mem_of_mem_writtenBy hMember
    obtain ⟨-, rfl⟩ := Prod.mk.inj hEq
    have hProperty := (hWrite other found hFound).propertyOf? id.key
    exact ⟨found.toText, List.mem_filterMap.mpr ⟨_, hMember, hProperty⟩⟩
  sound property hProperty := by
    obtain ⟨member, hMember, hProperty⟩ := List.mem_filterMap.mp hProperty
    obtain ⟨id, value, hGet, rfl⟩ := Assignment.mem_of_mem_writtenBy hMember
    rw [(hWrite id value hGet).propertyOf?] at hProperty
    cases hProperty
    exact ⟨id, value, hGet, rfl, Value.parse_toText_type value⟩

namespace Catalog

/-- Every setting that is set is the one that its key means, and its value is of its type. -/
def Resolves (catalog : Catalog) (settings : Assignment) : Prop :=
  ∀ id value, settings.get? id = some value →
    ∃ setting, catalog.resolve? id.key = some setting ∧ setting.id = id ∧ setting.type = value.type

/-- What properties depict is what they are read as, if every key means the setting that is
depicted. -/
theorem Resolves.assign (hResolves : catalog.Resolves settings)
    (hDepicts : Depicts properties settings) : catalog.assign properties = .ok settings := by
  refine assign_eq_ok_iff.mpr ⟨fun property hProperty setting hSetting => ?_,
    SortedMap.ofList_eq_of_mem_iff fun id value => ?_⟩
  · obtain ⟨id, value, hGet, hKey, hParse⟩ := hDepicts.sound property hProperty
    obtain ⟨meant, hMeant, -, hType⟩ := hResolves id value hGet
    rw [hKey, hMeant] at hSetting
    cases hSetting
    exact ⟨value, hType ▸ hParse⟩
  · rw [List.mem_filterMap]
    constructor
    · rintro ⟨property, hProperty, hEntry⟩
      obtain ⟨setting, hSetting, hId, hRead⟩ := entryOf?_eq_some_iff.mp hEntry
      obtain ⟨other, found, hGet, hKey, hParse⟩ := hDepicts.sound property hProperty
      obtain ⟨meant, hMeant, hOther, hType⟩ := hResolves other found hGet
      rw [hKey, hMeant] at hSetting
      cases hSetting
      rw [hType, hParse] at hRead
      cases hRead
      have hSame : other = id := hOther.symm.trans hId
      exact hSame ▸ hGet
    · intro hGet
      obtain ⟨text, hProperty⟩ := hDepicts.complete id value hGet
      obtain ⟨other, found, hFound, hKey, hParse⟩ := hDepicts.sound _ hProperty
      obtain ⟨setting, hSetting, hId, hType⟩ := hResolves id value hGet
      obtain ⟨meant, hMeant, hOther, hFoundType⟩ := hResolves other found hFound
      -- The text under the key of a setting is that of its value, since the key means no other.
      rw [← hKey, hSetting] at hMeant
      cases hMeant
      rw [← hOther, hId, hGet] at hFound
      cases hFound
      exact ⟨_, hProperty, entryOf?_eq_some_iff.mpr ⟨setting, hSetting, hId, hType ▸ hParse⟩⟩

/-- What properties are read as is set under keys that mean the settings that are set. -/
theorem Built.resolves_of_assign (hBuilt : catalog.Built published)
    (hPublication : IsPublication published) (hAssign : catalog.assign properties = .ok settings) :
    catalog.Resolves settings := by
  obtain ⟨-, rfl⟩ := assign_eq_ok_iff.mp hAssign
  intro id value hGet
  obtain ⟨property, -, hEntry⟩ := List.mem_filterMap.mp (SortedMap.mem_of_get?_ofList hGet)
  obtain ⟨setting, hSetting, rfl, hParse⟩ := entryOf?_eq_some_iff.mp hEntry
  obtain ⟨hKey, -⟩ := hBuilt.resolve? hPublication hSetting
  exact ⟨setting, by rw [Descriptor.id, hKey, hSetting], rfl, (Value.type_of_parse hParse).symm⟩

end Catalog

end Setting

namespace Configuration

variable {published : Set Descriptor} {env : Environment} {catalog : Catalog}
  {configuration : Configuration}

theorem ofProperties_eq_ok_iff {properties : List (String × String)} :
    ofProperties env catalog properties = .ok configuration ↔
      ∃ settings, catalog.assign properties = .ok settings ∧
        ofLayer env (.ofSettings settings) = configuration :=
  map_eq_ok_iff

theorem isSet_iff {setting : Descriptor} : configuration.isSet setting = true ↔
    ∃ value, configuration.layer.settings.get? setting.id = some value :=
  Option.isSome_iff_exists

/-- A catalog resolves the keys of an assignment exactly if it finds each setting that is set by its
key. -/
theorem Reachable.resolves_iff (hReachable : configuration.Reachable published)
    (hPublication : IsPublication published) (hCatalog : catalog.Built published) :
    catalog.Resolves configuration.layer.settings ↔ ∀ setting, configuration.isSet setting = true →
      (catalog.resolve? setting.key).map Descriptor.id = some setting.id := by
  constructor
  · intro hResolves setting hSet
    obtain ⟨value, hGet⟩ := isSet_iff.mp hSet
    obtain ⟨meant, hMeant, hId, -⟩ := hResolves setting.id value hGet
    rw [show setting.key = setting.id.key from rfl, hMeant, Option.map_some, hId]
  · intro hResolve id value hGet
    obtain ⟨setting, hSetting, rfl, hType⟩ :=
      (hReachable.settings hPublication).isTyped id value hGet
    obtain ⟨meant, hMeant, hId⟩ :=
      Option.map_eq_some_iff.mp (hResolve setting (isSet_iff.mpr ⟨value, hGet⟩))
    obtain ⟨-, hPublished⟩ := hCatalog.resolve? hPublication hMeant
    exact ⟨meant, hMeant, hId,
      (hPublication.consistent meant hPublished setting hSetting hId).trans hType⟩

/-- A configuration of published settings, written as properties, is accepted and sets the same
again exactly if every key means the setting that was set through it. Then the members of an object
with these keys, where flags and whole numbers may stand as such, set the same as well. It is so
for whatever was read from properties; reading it again gives the same configuration. -/
theorem properties_round_trip (hPublication : IsPublication published)
    (hCatalog : catalog.Built published) (hReachable : configuration.Reachable published)
    (env : Environment) :
    ((∃ again, ofProperties env catalog configuration.toProperties.entries = .ok again ∧
        again.layer.settings = configuration.layer.settings) ↔
      ∀ setting, configuration.isSet setting = true →
        (catalog.resolve? setting.key).map Descriptor.id = some setting.id) ∧
    ((∀ setting, configuration.isSet setting = true →
        (catalog.resolve? setting.key).map Descriptor.id = some setting.id) →
      ∀ write : Id → Value → Json,
        (∀ id value, configuration.layer.settings.get? id = some value →
          IsWrittenAs value (write id value)) →
        catalog.assignMembers (configuration.layer.settings.writtenBy write) =
          .ok configuration.layer.settings) ∧
    ∀ properties, ofProperties env catalog properties = .ok configuration →
      ofProperties env catalog configuration.toProperties.entries = .ok configuration ∧
        configuration.same configuration = true := by
  rw [← hReachable.resolves_iff hPublication hCatalog]
  have hDepicts : Depicts configuration.toProperties.entries configuration.layer.settings :=
    depicts_toText configuration.layer.settings
  refine ⟨⟨?_, fun hResolves => ?_⟩, fun hResolves write hWrite => ?_, fun properties hRead => ?_⟩
  · rintro ⟨again, hAgain, hSettings⟩
    obtain ⟨settings, hAssign, rfl⟩ := ofProperties_eq_ok_iff.mp hAgain
    exact hSettings ▸ hCatalog.resolves_of_assign hPublication hAssign
  · exact ⟨_, ofProperties_eq_ok_iff.mpr ⟨_, hResolves.assign hDepicts, rfl⟩, rfl⟩
  · exact hResolves.assign (depicts_members hWrite)
  · obtain ⟨settings, hAssign, rfl⟩ := ofProperties_eq_ok_iff.mp hRead
    have hResolves := hCatalog.resolves_of_assign hPublication hAssign
    exact ⟨ofProperties_eq_ok_iff.mpr ⟨settings, hResolves.assign hDepicts, rfl⟩, by simp [same]⟩

/-- Texts with blanks and capitals, one of them for a setting that is contributed. -/
theorem properties_round_trip_framed :
    ∃ configuration,
      ofProperties .empty .framed [("max_frame_size", " 1024 "), ("ssl", "TRUE")] =
        .ok configuration ∧
      configuration.toProperties.entries = [("max_frame_size", "1024"), ("ssl", "true")] ∧
      ofProperties .empty .framed configuration.toProperties.entries = .ok configuration := by
  have hAssign : Catalog.framed.assign [("max_frame_size", " 1024 "), ("ssl", "TRUE")] =
      .ok (.ofList [(maxFrameSize.id, .long 1024), (Builtin.ssl.id, .flag true)]) := by
    decide +kernel
  have hRead := ofProperties_eq_ok_iff.mpr
    ⟨_, hAssign, (rfl : ofLayer .empty (.ofSettings _) = _)⟩
  have hReachable := Reachable.ofProperties Catalog.built_framed hRead
  obtain ⟨-, -, hAgain⟩ :=
    properties_round_trip isPublication_framedSettings Catalog.built_framed hReachable .empty
  exact ⟨_, hRead, by decide +kernel, (hAgain _ hRead).1⟩

end Configuration

end DbClient
