import DbClient.Session.Configuration
import DbClient.Proofs.Occurrences

/-! Merging layers. Settings are taken from the last layer that has them and singletons from the
first one, where an object that occurs again counts only where it occurs first. Main statements:
`merge_last_setting_first_singleton` says so for every list of configurations, and
`merge_regroup` says that layers may be merged group by group. -/

namespace DbClient

open Setting

variable {ι κ α β : Type}

/-- What the first item that gives something gives, or nothing if no item does. -/
def IsFirstGiven (give : ι → Option β) (items : List ι) : Option β → Prop
  | some value => ∃ before item after, items = before ++ item :: after ∧
      give item = some value ∧ ∀ earlier ∈ before, give earlier = none
  | none => ∀ item ∈ items, give item = none

/-- What the last item that gives something gives, or nothing if no item does. -/
def IsLastGiven (give : ι → Option β) (items : List ι) : Option β → Prop
  | some value => ∃ before item after, items = before ++ item :: after ∧
      give item = some value ∧ ∀ later ∈ after, give later = none
  | none => ∀ item ∈ items, give item = none

theorem isFirstGiven_findSome? (give : ι → Option β) (items : List ι) :
    IsFirstGiven give items (items.findSome? give) := by
  cases hFound : items.findSome? give with
  | none => exact List.findSome?_eq_none_iff.mp hFound
  | some value => exact List.findSome?_eq_some_iff.mp hFound

/-- The last item that gives something is found from the back. -/
theorem findSome?_reverse_eq_some_iff {give : ι → Option β} {items : List ι} {value : β} :
    items.reverse.findSome? give = some value ↔ ∃ before item after,
      items = before ++ item :: after ∧ give item = some value ∧
        ∀ later ∈ after, give later = none := by
  rw [List.findSome?_eq_some_iff]
  constructor
  · rintro ⟨after, item, before, hItems, hGive, hAfter⟩
    refine ⟨before.reverse, item, after.reverse, ?_, hGive, ?_⟩
    · rw [← List.reverse_reverse items, hItems]
      simp
    · intro later hLater
      exact hAfter later (List.mem_reverse.mp hLater)
  · rintro ⟨before, item, after, rfl, hGive, hAfter⟩
    refine ⟨after.reverse, item, before.reverse, by simp, hGive, ?_⟩
    intro later hLater
    exact hAfter later (List.mem_reverse.mp hLater)

/-- The last item that gives something decides. -/
theorem isLastGiven_findSome?_reverse (give : ι → Option β) (items : List ι) :
    IsLastGiven give items (items.reverse.findSome? give) := by
  cases hFound : items.reverse.findSome? give with
  | none =>
      intro item hItem
      exact List.findSome?_eq_none_iff.mp hFound item (List.mem_reverse.mpr hItem)
  | some value => exact findSome?_reverse_eq_some_iff.mp hFound

/-- In the map of a list, a key is bound to what the last item gives for it. -/
theorem isLastGiven_get?_ofList {ν : Type} [Ord κ] [Std.TransOrd κ] [Std.LawfulEqOrd κ]
    [DecidableEq κ] (pair? : ι → Option (κ × ν)) (items : List ι) (key : κ) :
    IsLastGiven
      (fun item => (pair? item).bind fun pair => if pair.1 = key then some pair.2 else none)
      items ((SortedMap.ofList (items.filterMap pair?)).get? key) := by
  rw [SortedMap.get?_ofList_filterMap]
  exact isLastGiven_findSome?_reverse _ items

/-- Where no item gives anything, nothing is given. -/
theorem IsFirstGiven.eq_none {give : ι → Option β} {items : List ι} {result : Option β}
    (hResult : IsFirstGiven give items result) (hNone : ∀ item ∈ items, give item = none) :
    result = none := by
  cases result with
  | none => rfl
  | some value =>
      obtain ⟨before, item, after, hItems, hGive, -⟩ := hResult
      have hItem : item ∈ items := by simp [hItems]
      rw [hNone item hItem] at hGive
      cases hGive

/-- Something is given exactly if an item gives something. -/
theorem IsLastGiven.isSome_iff {give : ι → Option β} {items : List ι} {result : Option β}
    (hResult : IsLastGiven give items result) :
    result.isSome = true ↔ ∃ item ∈ items, (give item).isSome = true := by
  cases result with
  | none => simpa using fun item hItem => hResult item hItem
  | some value =>
      obtain ⟨before, item, after, hItems, hGive, -⟩ := hResult
      have hItem : item ∈ items := by simp [hItems]
      exact ⟨fun _ => ⟨item, hItem, by rw [hGive]; rfl⟩, fun _ => rfl⟩

/-- In lists that follow each other, what is found first is found in the first list that has
something. -/
theorem findSome?_flatMap (give : ι → Option β) (members : κ → List ι) (groups : List κ) :
    (groups.flatMap members).findSome? give =
      groups.findSome? fun group => (members group).findSome? give := by
  induction groups with
  | nil => rfl
  | cons group rest ih =>
      rw [List.flatMap_cons, List.findSome?_append, ih, List.findSome?_cons]
      cases (members group).findSome? give <;> rfl

section Occurrences

variable [DecidableEq ι]

/-- Leaving out repetitions does not change what is found first. -/
theorem findSome?_eraseDups (give : ι → Option β) (items : List ι) :
    items.eraseDups.findSome? give = items.findSome? give := by
  induction items using List.reverseRecOn with
  | nil => rfl
  | append_singleton items item ih =>
      rw [eraseDups_append_singleton]
      split
      · rename_i hItem
        rw [ih, List.findSome?_append]
        cases hFound : items.findSome? give with
        | some value => rfl
        | none =>
            -- The repeated item has been asked before, in vain.
            have hGive := List.findSome?_eq_none_iff.mp hFound item hItem
            simp [hGive]
      · rw [List.findSome?_append, List.findSome?_append, ih]

/-- Objects of different groups do not take each other's place. -/
theorem eraseDups_flatMap (members : κ → List ι) {groups : List κ}
    (hApart : groups.Pairwise fun group other => (members group).Disjoint (members other)) :
    (groups.flatMap members).eraseDups = groups.flatMap fun group => (members group).eraseDups := by
  induction groups with
  | nil => rfl
  | cons group rest ih =>
      obtain ⟨hGroup, hRest⟩ := List.pairwise_cons.mp hApart
      have hKept : (rest.flatMap members).removeAll (members group) = rest.flatMap members := by
        apply List.filter_eq_self.mpr
        intro item hItem
        obtain ⟨other, hOther, hMember⟩ := List.mem_flatMap.mp hItem
        have hNot : item ∉ members group := fun hMem => hGroup other hOther hMem hMember
        simpa using hNot
      rw [List.flatMap_cons, List.flatMap_cons, List.eraseDups_append, hKept, ih hRest]

/-- Objects with what each of them is. -/
def identified (objects : ι → α) (sources : List ι) : List (ι × α) :=
  sources.map fun object => (object, objects object)

namespace Layer

theorem firstOccurrences_append_singleton (layers : List (ι × Layer)) (layer : ι × Layer) :
    firstOccurrences (layers ++ [layer]) =
      if layer.1 ∈ (firstOccurrences layers).map Prod.fst then firstOccurrences layers
      else firstOccurrences layers ++ [layer] := by
  rw [firstOccurrences, List.foldl_append]
  rfl

/-- Of an object that occurs again, only the first occurrence counts. -/
theorem firstOccurrences_identified (objects : ι → Layer) (sources : List ι) :
    firstOccurrences (identified objects sources) = identified objects sources.eraseDups := by
  induction sources using List.reverseRecOn with
  | nil => rfl
  | append_singleton sources object ih =>
      have hSources : identified objects (sources ++ [object]) =
          identified objects sources ++ [(object, objects object)] := by
        simp [identified]
      have hKeys : (identified objects sources.eraseDups).map Prod.fst = sources.eraseDups := by
        simp [identified, Function.comp_def]
      rw [hSources, firstOccurrences_append_singleton, ih, hKeys, eraseDups_append_singleton]
      simp only [List.mem_eraseDups]
      split
      · rfl
      · simp [identified]

omit [DecidableEq ι] in
/-- Layers laid over each other: the last one that sets a setting counts. -/
theorem get?_foldl_overlay (objects : ι → Layer) (sources : List ι) (base : Assignment) (id : Id) :
    ((identified objects sources).foldl
        (fun merged layer => merged.overlay layer.2.settings) base).get? id =
      (sources.reverse.findSome? fun object => (objects object).settings.get? id).or
        (base.get? id) := by
  induction sources generalizing base with
  | nil => rfl
  | cons object rest ih =>
      have hStep := ih (base.overlay (objects object).settings)
      rw [SortedMap.get?_overlay] at hStep
      simpa [identified, Option.or_assoc] using hStep

/-- A merged setting is that of the last object that has it. -/
theorem get?_merge (objects : ι → Layer) (sources : List ι) (id : Id) :
    (merge (identified objects sources)).settings.get? id =
      sources.eraseDups.reverse.findSome? fun object => (objects object).settings.get? id := by
  have h := get?_foldl_overlay objects sources.eraseDups .empty id
  rw [← firstOccurrences_identified] at h
  simpa [merge] using h

/-- A singleton is found where it would be found without repetitions. -/
theorem findSome?_identified (give : Layer → Option β) (objects : ι → Layer) (sources : List ι) :
    ((identified objects sources).findSome? fun layer => give layer.2) =
      sources.eraseDups.findSome? fun object => give (objects object) := by
  rw [findSome?_eraseDups, identified, List.findSome?_map]
  rfl

/-- Of merged settings, the last one wins. -/
theorem isLastGiven_merge (objects : ι → Layer) (sources : List ι) (id : Id) :
    IsLastGiven (fun object => (objects object).settings.get? id) sources.eraseDups
      ((merge (identified objects sources)).settings.get? id) := by
  rw [get?_merge]
  exact isLastGiven_findSome?_reverse _ sources.eraseDups

/-- Of what objects give, the first one wins, and repetitions do not matter. -/
theorem isFirstGiven_identified (give : Layer → Option β) (objects : ι → Layer)
    (sources : List ι) :
    IsFirstGiven (fun object => give (objects object)) sources.eraseDups
      ((identified objects sources).findSome? fun layer => give layer.2) := by
  rw [findSome?_identified]
  exact isFirstGiven_findSome? _ sources.eraseDups

variable [DecidableEq κ]

/-- Singletons are found in the merged groups where they are found in their members. -/
theorem findSome?_regroup (give : Layer → Option β) (objects : ι → Layer) (members : κ → List ι)
    (groups : List κ) (merged : κ → Layer)
    (hMerged : ∀ group, give (merged group) =
      (identified objects (members group)).findSome? fun layer => give layer.2) :
    ((identified merged groups).findSome? fun layer => give layer.2) =
      (identified objects (groups.flatMap members)).findSome? fun layer => give layer.2 := by
  simp only [findSome?_identified, findSome?_eraseDups, hMerged, findSome?_flatMap]

/-- Layers may be merged group by group. -/
theorem merge_regrouped (objects : ι → Layer) (members : κ → List ι) {groups : List κ}
    (hGroups : groups.Nodup)
    (hApart : groups.Pairwise fun group other => (members group).Disjoint (members other)) :
    merge (identified (fun group => merge (identified objects (members group))) groups) =
      merge (identified objects (groups.flatMap members)) := by
  have hSettings : (merge (identified (fun group => merge (identified objects (members group)))
      groups)).settings = (merge (identified objects (groups.flatMap members))).settings := by
    apply SortedMap.ext_get?
    intro id
    rw [get?_merge, get?_merge, eraseDups_of_nodup hGroups, eraseDups_flatMap members hApart,
      List.reverse_flatMap, findSome?_flatMap]
    congr 1
    funext group
    exact get?_merge objects (members group) id
  have hCredentials := findSome?_regroup Layer.credentials? objects members groups
    (fun group => merge (identified objects (members group))) fun _ => rfl
  have hSelector := findSome?_regroup Layer.selector? objects members groups
    (fun group => merge (identified objects (members group))) fun _ => rfl
  have hMetrics := findSome?_regroup Layer.metrics? objects members groups
    (fun group => merge (identified objects (members group))) fun _ => rfl
  simp only [merge, mk.injEq] at hSettings ⊢
  exact ⟨hSettings, hCredentials, hSelector, hMetrics⟩

end Layer

namespace Configuration

/-- The layer of merged configurations is made of their layers. -/
theorem layer_merge (env : Environment) (objects : ι → Configuration) (sources : List ι) :
    (merge env (identified objects sources)).layer =
      Layer.merge (identified (fun object => (objects object).layer) sources) := by
  simp [merge, ofLayer, identified, Function.comp_def]

/-- A merged configuration sets what some layer sets, to the value of the last layer that does,
and has each singleton of the first layer that has an explicit one; a repeated object counts
only once. Credentials that follow from settings follow from the merged ones. -/
theorem merge_last_setting_first_singleton (env : Environment) (objects : ι → Configuration)
    (sources : List ι) :
    let kept := sources.eraseDups
    let merged := merge env (identified objects sources)
    (∀ setting : Descriptor,
      (merged.isSet setting = true ↔ ∃ object ∈ kept, (objects object).isSet setting = true) ∧
      IsLastGiven (fun object => (objects object).layer.settings.get? setting.id) kept
        (merged.layer.settings.get? setting.id)) ∧
    IsFirstGiven (fun object => (objects object).layer.credentials?) kept
      merged.layer.credentials? ∧
    IsFirstGiven (fun object => (objects object).layer.selector?) kept merged.layer.selector? ∧
    IsFirstGiven (fun object => (objects object).layer.metrics?) kept merged.layer.metrics? ∧
    ((∀ object ∈ kept, (objects object).layer.credentials? = none) →
      merged.credentials = settingCredentials env merged.layer.settings) ∧
    ((∀ object ∈ kept, (objects object).layer.selector? = none) →
      merged.selector = .empty ∧ ∀ protocol tags,
        merged.selector.acceptsProtocol protocol = true ∧
          merged.selector.acceptsTags tags = true) := by
  intro kept merged
  have hLayer : merged.layer = Layer.merge (identified (fun object => (objects object).layer)
      sources) := layer_merge env objects sources
  have hSettings (id : Id) : IsLastGiven (fun object => (objects object).layer.settings.get? id)
      kept (merged.layer.settings.get? id) := by
    rw [hLayer]
    exact Layer.isLastGiven_merge _ sources id
  have hCredentials : IsFirstGiven (fun object => (objects object).layer.credentials?) kept
      merged.layer.credentials? := by
    rw [hLayer]
    exact Layer.isFirstGiven_identified Layer.credentials? _ sources
  have hSelector : IsFirstGiven (fun object => (objects object).layer.selector?) kept
      merged.layer.selector? := by
    rw [hLayer]
    exact Layer.isFirstGiven_identified Layer.selector? _ sources
  have hMetrics : IsFirstGiven (fun object => (objects object).layer.metrics?) kept
      merged.layer.metrics? := by
    rw [hLayer]
    exact Layer.isFirstGiven_identified Layer.metrics? _ sources
  refine ⟨fun setting => ⟨(hSettings setting.id).isSome_iff, hSettings setting.id⟩, hCredentials,
    hSelector, hMetrics, ?_, ?_⟩
  · intro hNone
    show merged.layer.credentials?.getD (settingCredentials env merged.layer.settings) = _
    rw [hCredentials.eq_none hNone]
    rfl
  · intro hNone
    have hEmpty : merged.selector = .empty := by
      show merged.layer.selector?.getD .empty = _
      rw [hSelector.eq_none hNone]
      rfl
    refine ⟨hEmpty, fun protocol tags => ?_⟩
    rw [hEmpty]
    exact ⟨rfl, rfl⟩

/-- Three configurations that set the user only, each to a name of its own. -/
def userLayers (object : Nat) : Configuration :=
  ofLayer .empty <| .ofSettings <| .ofList
    [(Fallback.user.id, .text (["first", "second", "third"].getD object ""))]

/-- The first configuration does not count again behind the second one. -/
theorem merge_userLayers_repeated :
    (∀ object ∈ [0, 1, 0].eraseDups, (userLayers object).layer.credentials? = none) ∧
    (∀ object ∈ [0, 1, 0].eraseDups, (userLayers object).layer.selector? = none) ∧
    (merge .empty (identified userLayers [0, 1, 0])).credentials = ⟨"second", ""⟩ ∧
    (merge .empty (identified userLayers [0, 1, 0])).selector = .empty := by
  have hCredentials : ∀ object ∈ [0, 1, 0].eraseDups,
      (userLayers object).layer.credentials? = none := by decide
  have hSelector : ∀ object ∈ [0, 1, 0].eraseDups,
      (userLayers object).layer.selector? = none := by decide
  obtain ⟨-, -, -, -, hUser, hAccept⟩ :=
    merge_last_setting_first_singleton .empty userLayers [0, 1, 0]
  refine ⟨hCredentials, hSelector, ?_, (hAccept hSelector).1⟩
  rw [hUser hCredentials]
  decide

/-- Layers may be merged group by group, each group into an object of its own, as long as no
object is in two groups. A group without layers changes nothing. -/
theorem merge_regroup [DecidableEq κ] (env : Environment) (objects : ι → Configuration)
    (members : κ → List ι) (groups : List κ) (hGroups : groups.Nodup)
    (hApart : groups.Pairwise fun group other => (members group).Disjoint (members other)) :
    merge env (identified (fun group => merge env (identified objects (members group))) groups) =
        merge env (identified objects (groups.flatMap members)) ∧
      merge env (identified objects []) = default env := by
  have hLayer := Layer.merge_regrouped (fun object => (objects object).layer) members hGroups hApart
  simp only [← layer_merge env] at hLayer
  exact ⟨congrArg (ofLayer env) hLayer, rfl⟩

/-- The groups of a repeated layer, of no layer and of another one. -/
theorem merge_regroup_userLayers :
    let members := fun group : Nat => [[0, 1, 0], [], [2]].getD group []
    [0, 1, 2].Nodup ∧
    [0, 1, 2].Pairwise (fun group other => (members group).Disjoint (members other)) ∧
    merge .empty (identified (fun group => merge .empty (identified userLayers (members group)))
      [0, 1, 2]) = merge .empty (identified userLayers [0, 1, 0, 2]) := by
  intro members
  have hApart : [0, 1, 2].Pairwise
      (fun group other => (members group).Disjoint (members other)) := by simp [members]
  exact ⟨by decide, hApart,
    (merge_regroup .empty userLayers members [0, 1, 2] (by decide) hApart).1⟩

end Configuration

end Occurrences

end DbClient
