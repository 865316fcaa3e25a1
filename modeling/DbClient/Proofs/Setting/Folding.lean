import DbClient.Proofs.Setting.Discovering

/-! Properties read in order. Main statement: `assign_stops_or_keeps_last`, by which properties fail
as the first one that is refused, and otherwise the last property with a key counts. -/

namespace DbClient.Setting.Catalog

variable {published : Set Descriptor} {catalog : Catalog} {property : String × String}
  {properties reordered front back : List (String × String)} {id : Id} {value : Value}
  {settings lower upper : Assignment} {error : Error}

/-- How a property fails: its key means a setting that cannot read its text. -/
def Refuses (catalog : Catalog) (property : String × String) (error : Error) : Prop :=
  ∃ setting reason, catalog.resolve? property.1 = some setting ∧
    Value.parse property.2 setting.type = .error reason ∧
    error = .invalidSettingText setting.key property.2 reason.message

/-- What a property says: its key means a setting that reads its text as a value. -/
def Says (catalog : Catalog) (property : String × String) (id : Id) (value : Value) : Prop :=
  ∃ setting, catalog.resolve? property.1 = some setting ∧ setting.id = id ∧
    Value.parse property.2 setting.type = .ok value

/-- What is left after properties of which none is refused: settings have the values that the last
properties with their keys say, and no others are set. -/
structure IsLeftBy (catalog : Catalog) (properties : List (String × String))
    (settings : Assignment) : Prop where
  accepted : ∀ property ∈ properties, ∀ error, ¬ catalog.Refuses property error
  get?_eq_some_iff : ∀ id value, settings.get? id = some value ↔ ∃ before property after,
    properties = before ++ property :: after ∧ catalog.Says property id value ∧
      ∀ later ∈ after, later.1 ≠ property.1

/-- The text that a document stands for as a property: that of a string as it is, and otherwise its
own text. No text stands for `null`. -/
inductive IsPropertyText : Json → String → Prop where
  | string (text : String) : IsPropertyText (.string text) text
  | other {document : Json} (hNull : document ≠ .null)
      (hString : ∀ text, document ≠ .string text) : IsPropertyText document document.toText

/-- The error of a property that is refused. -/
def refusal? (catalog : Catalog) (property : String × String) : Option Error :=
  (catalog.resolve? property.1).bind fun setting => faultOf (setting.parse property.2)

/-- The error for a property says why it is refused. -/
theorem refusal?_eq_some_iff :
    catalog.refusal? property = some error ↔ catalog.Refuses property error := by
  rw [refusal?, Option.bind_eq_some_iff, Refuses]
  refine exists_congr fun setting => ?_
  rw [Descriptor.parse, faultOf_mapError, Option.map_eq_some_iff]
  constructor
  · rintro ⟨hResolve, reason, hReason, rfl⟩
    exact ⟨reason, hResolve, faultOf_eq_some_iff.mp hReason, rfl⟩
  · rintro ⟨reason, hResolve, hReason, rfl⟩
    exact ⟨hResolve, reason, faultOf_eq_some_iff.mpr hReason, rfl⟩

theorem refusal?_eq_none_iff :
    catalog.refusal? property = none ↔ ∀ error, ¬ catalog.Refuses property error := by
  simp only [← refusal?_eq_some_iff, Option.eq_none_iff_forall_ne_some, ne_eq]

theorem accepts_iff :
    catalog.Accepts property ↔ ∀ error, ¬ catalog.Refuses property error := by
  rw [← refusal?_eq_none_iff, refusal?, Option.bind_eq_none_iff, Accepts]
  refine forall_congr' fun setting => imp_congr_right fun _ => ?_
  rw [Descriptor.parse, faultOf_mapError, Option.map_eq_none_iff, faultOf_eq_none_iff]

/-- Whatever is set so far, a property fails in the same way. -/
theorem faultOf_assignOne (assignment : Assignment) (property : String × String) :
    faultOf (catalog.assignOne assignment property) = catalog.refusal? property := by
  rw [assignOne, refusal?]
  cases catalog.resolve? property.1 with
  | none => rfl
  | some setting => exact faultOf_map (assignment.insert setting.id) (setting.parse property.2)

/-- Properties fail as the first one that is refused. -/
theorem assign_eq_error_iff : catalog.assign properties = .error error ↔
    ∃ before property after, properties = before ++ property :: after ∧
      catalog.Refuses property error ∧
      ∀ earlier ∈ before, ∀ other, ¬ catalog.Refuses earlier other := by
  rw [← faultOf_eq_some_iff, assign, faultOf_foldlM faultOf_assignOne,
    List.findSome?_eq_some_iff]
  simp only [refusal?_eq_some_iff, refusal?_eq_none_iff]

/-- What a property sets a setting to. -/
def valueFor? (catalog : Catalog) (id : Id) (property : String × String) : Option Value :=
  (catalog.entryOf? property).bind fun entry => if entry.1 = id then some entry.2 else none

/-- The value that a property has for a setting is what it says about it. -/
theorem valueFor?_eq_some_iff :
    catalog.valueFor? id property = some value ↔ catalog.Says property id value := by
  rw [valueFor?, Option.bind_eq_some_iff]
  constructor
  · rintro ⟨⟨other, found⟩, hEntry, hValue⟩
    obtain ⟨rfl, hFound⟩ := Option.ite_none_right_eq_some.mp hValue
    cases hFound
    exact entryOf?_eq_some_iff.mp hEntry
  · intro hSays
    exact ⟨(id, value), entryOf?_eq_some_iff.mpr hSays, if_pos rfl⟩

/-- A property that is not refused says something about a setting if its key means this setting,
hence if it has the key of another property that does. -/
theorem valueFor?_eq_none_iff (hOrderly : catalog.IsOrderly) {later : String × String}
    (hSays : catalog.Says property id value) (hAccepts : catalog.Accepts later) :
    catalog.valueFor? id later = none ↔ later.1 ≠ property.1 := by
  obtain ⟨setting, hResolve, rfl, -⟩ := hSays
  rw [Option.eq_none_iff_forall_ne_some]
  constructor
  · intro hNone hKey
    rw [← hKey] at hResolve
    obtain ⟨found, hFound⟩ := hAccepts setting hResolve
    exact hNone found (valueFor?_eq_some_iff.mpr ⟨setting, hResolve, rfl, hFound⟩)
  · intro hKey found hFound
    obtain ⟨other, hOther, hId, -⟩ := valueFor?_eq_some_iff.mp hFound
    apply hKey
    rw [← hOrderly.resolve_key _ _ hOther, ← hOrderly.resolve_key _ _ hResolve]
    exact congrArg Id.key hId

/-- A setting has the value that the last property with its key says. -/
theorem get?_assigned_iff (hOrderly : catalog.IsOrderly)
    (hAccepts : ∀ property ∈ properties, catalog.Accepts property) :
    (SortedMap.ofList (properties.filterMap catalog.entryOf?)).get? id = some value ↔
      ∃ before property after, properties = before ++ property :: after ∧
        catalog.Says property id value ∧ ∀ later ∈ after, later.1 ≠ property.1 := by
  have hGet : (SortedMap.ofList (properties.filterMap catalog.entryOf?)).get? id =
      properties.reverse.findSome? (catalog.valueFor? id) :=
    SortedMap.get?_ofList_filterMap catalog.entryOf? properties id
  rw [hGet, findSome?_reverse_eq_some_iff]
  refine exists_congr fun before => exists_congr fun property => exists_congr fun after => ?_
  rw [valueFor?_eq_some_iff]
  refine and_congr_right fun hSplit => and_congr_right fun hSays => ?_
  refine forall_congr' fun later => imp_congr_right fun hLater => ?_
  have hMem : later ∈ properties := by
    rw [hSplit]
    exact List.mem_append_right _ (List.mem_cons_of_mem _ hLater)
  exact valueFor?_eq_none_iff hOrderly hSays (hAccepts later hMem)

/-- Properties are assigned exactly if a settings map is left by them. -/
theorem assign_eq_ok_iff_isLeftBy (hOrderly : catalog.IsOrderly) :
    catalog.assign properties = .ok settings ↔ catalog.IsLeftBy properties settings := by
  rw [assign_eq_ok_iff]
  constructor
  · rintro ⟨hAccepts, rfl⟩
    exact ⟨fun property hProperty => accepts_iff.mp (hAccepts property hProperty),
      fun id value => get?_assigned_iff hOrderly hAccepts⟩
  · rintro ⟨hAccepted, hGet⟩
    have hAccepts : ∀ property ∈ properties, catalog.Accepts property :=
      fun property hProperty => accepts_iff.mpr (hAccepted property hProperty)
    refine ⟨hAccepts, SortedMap.ext_get? fun id => Option.ext fun value => ?_⟩
    exact (get?_assigned_iff hOrderly hAccepts).trans (hGet id value).symm

/-- Properties behind others are put over what these set. -/
theorem assign_append (hFront : catalog.assign front = .ok lower)
    (hBack : catalog.assign back = .ok upper) :
    catalog.assign (front ++ back) = .ok (lower.overlay upper) := by
  obtain ⟨hFrontAccepts, rfl⟩ := assign_eq_ok_iff.mp hFront
  obtain ⟨hBackAccepts, rfl⟩ := assign_eq_ok_iff.mp hBack
  refine assign_eq_ok_iff.mpr ⟨fun property hProperty => ?_, ?_⟩
  · exact (List.mem_append.mp hProperty).elim (hFrontAccepts property) (hBackAccepts property)
  · rw [List.filterMap_append, SortedMap.ofList_append]

/-- If no key occurs twice, every property is the last one with its key. -/
theorem exists_last_iff_mem {Holds : String × String → Prop}
    (hKeys : (properties.map Prod.fst).Nodup) :
    (∃ before property after, properties = before ++ property :: after ∧ Holds property ∧
      ∀ later ∈ after, later.1 ≠ property.1) ↔ ∃ property ∈ properties, Holds property := by
  constructor
  · rintro ⟨before, property, after, rfl, hHolds, -⟩
    exact ⟨property, by simp, hHolds⟩
  · rintro ⟨property, hProperty, hHolds⟩
    obtain ⟨before, after, rfl⟩ := List.append_of_mem hProperty
    refine ⟨before, property, after, rfl, hHolds, fun later hLater hKey => ?_⟩
    rw [List.map_append, List.map_cons] at hKeys
    have hFresh := (List.nodup_cons.mp (List.nodup_append.mp hKeys).2.1).1
    exact hFresh (hKey ▸ List.mem_map_of_mem hLater)

/-- Properties with different keys leave the same in any order. -/
theorem isLeftBy_of_perm (hKeys : (properties.map Prod.fst).Nodup)
    (hPerm : properties.Perm reordered) (hLeft : catalog.IsLeftBy properties settings) :
    catalog.IsLeftBy reordered settings where
  accepted property hProperty := hLeft.accepted property (hPerm.mem_iff.mpr hProperty)
  get?_eq_some_iff id value := by
    have hReordered : (reordered.map Prod.fst).Nodup := (hPerm.map Prod.fst).nodup_iff.mp hKeys
    rw [hLeft.get?_eq_some_iff, exists_last_iff_mem hKeys, exists_last_iff_mem hReordered]
    simp only [hPerm.mem_iff]

/-- The order of properties with distinct keys does not matter. -/
theorem assign_perm_iff (hOrderly : catalog.IsOrderly) (hKeys : (properties.map Prod.fst).Nodup)
    (hPerm : properties.Perm reordered) :
    catalog.assign properties = .ok settings ↔ catalog.assign reordered = .ok settings := by
  rw [assign_eq_ok_iff_isLeftBy hOrderly, assign_eq_ok_iff_isLeftBy hOrderly]
  have hReordered : (reordered.map Prod.fst).Nodup := (hPerm.map Prod.fst).nodup_iff.mp hKeys
  exact ⟨isLeftBy_of_perm hKeys hPerm, isLeftBy_of_perm hReordered hPerm.symm⟩

/-- Properties with unknown keys may be left out. -/
theorem foldlM_assignOne_filter (assignment : Assignment) :
    properties.foldlM catalog.assignOne assignment =
      (properties.filter fun property => (catalog.resolve? property.1).isSome).foldlM
        catalog.assignOne assignment := by
  induction properties generalizing assignment with
  | nil => rfl
  | cons property rest ih =>
      rw [List.foldlM_cons, List.filter_cons]
      cases hResolve : catalog.resolve? property.1 with
      | none =>
          have hIgnored : catalog.assignOne assignment property = .ok assignment := by
            rw [assignOne, hResolve]
          rw [hIgnored]
          exact ih assignment
      | some setting =>
          rw [Option.isSome_some, if_pos rfl, List.foldlM_cons]
          exact bind_congr fun next => ih next

/-- A member is a property exactly if it has the text of one. -/
theorem propertyOf?_eq_some_iff {member : String × Json} :
    propertyOf? member = some property ↔
      property.1 = member.1 ∧ IsPropertyText member.2 property.2 := by
  obtain ⟨key, document⟩ := member
  obtain ⟨name, text⟩ := property
  constructor
  · intro hProperty
    cases document with
    | null => cases hProperty
    | string shown =>
        cases hProperty
        exact ⟨rfl, .string _⟩
    | bool | integer | float | array | object =>
        cases hProperty
        exact ⟨rfl, .other nofun nofun⟩
  · rintro ⟨hName, hText⟩
    obtain rfl : name = key := hName
    cases (hText : IsPropertyText document text) with
    | string => rfl
    | other hNull hString =>
        cases document with
        | null => exact absurd rfl hNull
        | string shown => exact absurd rfl (hString shown)
        | bool | integer | float | array | object => rfl

/-- The properties that an object stands for, in the order of its keys. -/
def propertiesOf (object : SortedMap String Json) : SortedMap String String where
  entries := object.entries.filterMap propertyOf?
  increasing := by
    refine object.increasing.filterMap propertyOf? ?_
    intro first second hLess property hProperty other hOther
    rw [(propertyOf?_eq_some_iff.mp hProperty).1, (propertyOf?_eq_some_iff.mp hOther).1]
    exact hLess

/-- An object has the properties that its members have the text of. -/
theorem get?_propertiesOf_iff {object : SortedMap String Json} {key text : String} :
    (propertiesOf object).get? key = some text ↔
      ∃ document, object.get? key = some document ∧ IsPropertyText document text := by
  rw [← SortedMap.mem_entries_iff, propertiesOf, List.mem_filterMap]
  constructor
  · rintro ⟨⟨name, document⟩, hMember, hProperty⟩
    obtain ⟨rfl, hText⟩ := propertyOf?_eq_some_iff.mp hProperty
    exact ⟨document, SortedMap.mem_entries_iff.mp hMember, hText⟩
  · rintro ⟨document, hGet, hText⟩
    exact ⟨(key, document), SortedMap.mem_entries_iff.mpr hGet,
      propertyOf?_eq_some_iff.mpr ⟨rfl, hText⟩⟩

/-- Reading properties fails as the first of them that is refused: its key means a setting that
cannot read its text, even if the key occurs again behind it. Otherwise, exactly those settings are
set that a key means, each to what the last property with this key says. Properties whose keys mean
nothing may be left out, properties that follow others are put over them, and the order of
properties with distinct keys does not matter. The members of an object are read in the order of
their keys, as properties with the texts that they stand for. -/
theorem assign_stops_or_keeps_last (hBuilt : catalog.Built published) :
    (∀ properties error, catalog.assign properties = .error error ↔
      ∃ before property after, properties = before ++ property :: after ∧
        catalog.Refuses property error ∧
        ∀ earlier ∈ before, ∀ other, ¬ catalog.Refuses earlier other) ∧
    (∀ properties settings, catalog.assign properties = .ok settings ↔
      catalog.IsLeftBy properties settings) ∧
    (∀ properties, catalog.assign properties =
      catalog.assign (properties.filter fun property => (catalog.resolve? property.1).isSome)) ∧
    (∀ front back lower upper, catalog.assign front = .ok lower → catalog.assign back = .ok upper →
      catalog.assign (front ++ back) = .ok (lower.overlay upper)) ∧
    (∀ properties reordered : List (String × String), (properties.map Prod.fst).Nodup →
      properties.Perm reordered → ∀ settings,
        catalog.assign properties = .ok settings ↔ catalog.assign reordered = .ok settings) ∧
    ∀ object : SortedMap String Json, ∃ properties : SortedMap String String,
      (∀ key text, properties.get? key = some text ↔
        ∃ document, object.get? key = some document ∧ IsPropertyText document text) ∧
      catalog.assignMembers object.entries = catalog.assign properties.entries :=
  ⟨fun _ _ => assign_eq_error_iff,
    fun _ _ => assign_eq_ok_iff_isLeftBy hBuilt.isOrderly,
    fun _ => foldlM_assignOne_filter .empty,
    fun _ _ _ _ => assign_append,
    fun _ _ hKeys hPerm _ => assign_perm_iff hBuilt.isOrderly hKeys hPerm,
    fun object => ⟨propertiesOf object, fun _ _ => get?_propertiesOf_iff, rfl⟩⟩

/-- The refused text stops the reading, although a later property has the same key. Properties with
distinct keys set the same in either order, and those of a second list are put over the first. -/
theorem assign_stops_or_keeps_last_framed :
    framed.Built framedSettings ∧
    framed.assign [("retry", "3"), ("frames", "?"), ("retry", "soon"), ("retry", "5")] =
      .error (.invalidSettingText "retry" "soon"
        "Invalid input: 'soon' is not an Integer: invalid digit found in string") ∧
    framed.assign ([("retry", "3"), ("ssl", "1")] ++ [("retry", "5")]) =
      .ok (.ofList [(Builtin.ssl.id, .flag true), (Builtin.retry.id, .int 5)]) ∧
    framed.assign [("ssl", "1"), ("retry", "5")] =
      framed.assign [("retry", "5"), ("ssl", "1")] := by
  obtain ⟨hError, -, -, hAppend, hPerm, -⟩ := assign_stops_or_keeps_last built_framed
  refine ⟨built_framed, ?_, ?_, ?_⟩
  · have hRefused : framed.Refuses ("retry", "soon") (.invalidSettingText "retry" "soon"
        "Invalid input: 'soon' is not an Integer: invalid digit found in string") :=
      refusal?_eq_some_iff.mp (by decide +kernel)
    have hBefore : ∀ earlier ∈ [("retry", "3"), ("frames", "?")],
        framed.refusal? earlier = none := by
      decide +kernel
    exact (hError _ _).mpr ⟨_, _, [("retry", "5")], rfl, hRefused,
      fun earlier hEarlier => refusal?_eq_none_iff.mp (hBefore earlier hEarlier)⟩
  · have hFront : framed.assign [("retry", "3"), ("ssl", "1")] =
        .ok (.ofList [(Builtin.retry.id, .int 3), (Builtin.ssl.id, .flag true)]) := by
      decide +kernel
    have hBack : framed.assign [("retry", "5")] = .ok (.ofList [(Builtin.retry.id, .int 5)]) := by
      decide +kernel
    exact (hAppend _ _ _ _ hFront hBack).trans (congrArg Except.ok (by decide +kernel))
  · have hFirst : framed.assign [("ssl", "1"), ("retry", "5")] =
        .ok (.ofList [(Builtin.ssl.id, .flag true), (Builtin.retry.id, .int 5)]) := by
      decide +kernel
    exact hFirst.trans ((hPerm _ _ (by decide) (.swap _ _ []) _).mp hFirst).symm

end DbClient.Setting.Catalog
