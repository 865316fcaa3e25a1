import DbClient.Proofs.Session.Layering
import DbClient.Proofs.Setting.Assigning
import Mathlib.Data.Set.Operations

/-! What comes of discovering and registering contributed settings. Main statement:
`discover_last_wins_or_nothing` says that a catalog has the last contribution for each key, or none
at all if anything fails on the way, and that built-in keys keep their meaning in any case. -/

namespace DbClient.Setting

/-- A setting with this key, and nothing for any other. -/
def Descriptor.keyed? (key : String) (setting : Descriptor) : Option Descriptor :=
  if setting.key = key then some setting else none

/-- The settings that a client has of its own. -/
def Contribution.own : Contribution → List Descriptor
  | declared settings => settings
  | absent | builtinTable | crash => []

/-- Whether the clients cannot be listed, or one of them crashes when it is asked. -/
def Discovery.Fails : Discovery → Prop
  | failed _ => True
  | crashed => True
  | clients contributions => .crash ∈ contributions

/-- One call that registers settings. -/
inductive Registration where
  | one (setting : Descriptor)
  | set (settings : List Descriptor)

def Registration.settings : Registration → List Descriptor
  | one setting => [setting]
  | set settings => settings

namespace Catalog

variable {catalog next : Catalog} {contribution : Contribution}
  {contributions : List Contribution} {settings : List Descriptor} {key : String}

/-- The catalog after one call. -/
def perform (catalog : Catalog) : Registration → Catalog
  | .one setting => catalog.register setting
  | .set settings => catalog.registerAll settings

/-- The catalog after a sequence of calls. -/
def registered (registrations : List Registration) : Catalog :=
  registrations.foldl perform builtin

/-- The catalog after one client was asked, unless it crashed. -/
def ask (catalog : Catalog) : Contribution → Option Catalog
  | .absent => some catalog
  | .builtinTable => some catalog
  | .declared settings =>
    if settings.isEmpty then some catalog else some (catalog.registerAll settings)
  | .crash => none

theorem registerAll_append (catalog : Catalog) (first second : List Descriptor) :
    catalog.registerAll (first ++ second) = (catalog.registerAll first).registerAll second :=
  List.foldl_append

theorem ask_eq_map (catalog : Catalog) (contribution : Contribution) :
    catalog.ask contribution = contribution.settings?.map catalog.registerAll := by
  cases contribution with
  | absent => rfl
  | builtinTable => rfl
  | declared settings => cases settings <;> rfl
  | crash => rfl

/-- It makes no difference whether clients are asked first and registered then, or registered as
they are asked. -/
theorem foldlM_ask : contributions.foldlM ask catalog =
    (contributions.mapM Contribution.settings?).map fun sets => sets.foldl registerAll catalog := by
  induction contributions generalizing catalog with
  | nil => rfl
  | cons contribution rest ih =>
      rw [List.foldlM_cons, List.mapM_cons, ask_eq_map]
      cases contribution.settings? with
      | none => rfl
      | some settings =>
          refine Eq.trans ih ?_
          cases rest.mapM Contribution.settings? <;> simp

theorem ask_eq_some_iff : catalog.ask contribution = some next ↔
    .crash ≠ contribution ∧ catalog.registerAll contribution.own = next := by
  cases contribution <;> simp [ask_eq_map, Contribution.settings?, Contribution.own, registerAll]

/-- Clients that are asked one after the other add their settings in this order; after a crash there
is nothing. -/
theorem foldlM_ask_eq_some_iff : contributions.foldlM ask catalog = some next ↔
    .crash ∉ contributions ∧
      catalog.registerAll (contributions.flatMap Contribution.own) = next := by
  induction contributions generalizing catalog with
  | nil => simp [registerAll]
  | cons contribution rest ih =>
      simp only [List.foldlM_cons, Option.bind_eq_bind, Option.bind_eq_some_iff, ask_eq_some_iff,
        ih, List.mem_cons, not_or, List.flatMap_cons, registerAll_append]
      constructor
      · rintro ⟨asked, ⟨hFirst, rfl⟩, hRest, hNext⟩
        exact ⟨⟨hFirst, hRest⟩, hNext⟩
      · rintro ⟨⟨hFirst, hRest⟩, hNext⟩
        exact ⟨_, ⟨hFirst, rfl⟩, hRest, hNext⟩

/-- If a client crashes, nothing is discovered. -/
theorem discover_clients (contributions : List Contribution) :
    discover (.clients contributions) = (contributions.foldlM ask builtin).getD builtin := by
  rw [foldlM_ask, discover]
  cases contributions.mapM Contribution.settings? <;> rfl

/-- If listing the clients fails, nothing is discovered. -/
theorem discover_of_fails {discovery : Discovery} (hFails : discovery.Fails) :
    discover discovery = builtin := by
  cases discovery with
  | failed error => rfl
  | crashed => rfl
  | clients contributions =>
      rw [discover_clients]
      cases hAsked : contributions.foldlM ask builtin with
      | none => rfl
      | some next => exact absurd hFails (foldlM_ask_eq_some_iff.mp hAsked).1

/-- If no client crashes, the settings of all of them are registered. -/
theorem discover_of_not_crash (hCrash : .crash ∉ contributions) :
    discover (.clients contributions) =
      builtin.registerAll (contributions.flatMap Contribution.own) := by
  rw [discover_clients, foldlM_ask_eq_some_iff.mpr ⟨hCrash, rfl⟩, Option.getD_some]

theorem perform_eq (catalog : Catalog) (registration : Registration) :
    catalog.perform registration = catalog.registerAll registration.settings := by
  cases registration <;> rfl

/-- Registrations register all their settings, one after the other. -/
theorem registered_eq (registrations : List Registration) : registered registrations =
    builtin.registerAll (registrations.flatMap Registration.settings) := by
  rw [registered, registerAll, List.foldl_flatMap]
  congr 1
  funext catalog registration
  exact perform_eq catalog registration

/-- Of settings with the same key, the last one that is registered counts. -/
theorem contributed?_registerAll (catalog : Catalog) (settings : List Descriptor) (key : String) :
    (catalog.registerAll settings).contributed? key =
      (settings.reverse.findSome? (Descriptor.keyed? key)).or (catalog.contributed? key) := by
  induction settings generalizing catalog with
  | nil => rfl
  | cons setting rest ih =>
      have hStep : (catalog.register setting).contributed? key =
          (setting.keyed? key).or (catalog.contributed? key) := by
        rw [contributed?, register, SortedMap.get?_insert, Descriptor.keyed?]
        by_cases hKey : setting.key = key
        · rw [if_pos hKey, if_pos hKey.symm, Option.some_or]
        · rw [if_neg hKey, if_neg (Ne.symm hKey), Option.none_or]
          rfl
      rw [List.reverse_cons, List.findSome?_append, List.findSome?_singleton, Option.or_assoc,
        ← hStep]
      exact ih (catalog.register setting)

/-- Of contributed settings with a key, the last one wins. -/
theorem isLastGiven_contributed? (settings : List Descriptor) (key : String) :
    IsLastGiven (Descriptor.keyed? key) settings
      ((builtin.registerAll settings).contributed? key) := by
  have hContributed := contributed?_registerAll builtin settings key
  rw [show builtin.contributed? key = none from rfl, Option.or_none] at hContributed
  rw [hContributed]
  exact isLastGiven_findSome?_reverse (Descriptor.keyed? key) settings

theorem builtin?_eq_find? (key : String) :
    builtin? key = (Builtin.all ++ Fallback.properties).find? fun setting => setting.key = key :=
  List.find?_append.symm

theorem nodup_builtin_keys : ((Builtin.all ++ Fallback.properties).map Descriptor.key).Nodup := by
  decide +kernel

/-- A setting of the library is found exactly by its own key. -/
theorem builtin?_eq_some_iff {setting : Descriptor} : builtin? key = some setting ↔
    setting ∈ Builtin.all ++ Fallback.properties ∧ setting.key = key := by
  rw [builtin?_eq_find?]
  constructor
  · intro hFound
    exact ⟨List.mem_of_find?_eq_some hFound, by simpa using List.find?_some hFound⟩
  · rintro ⟨hSetting, rfl⟩
    cases hFound : (Builtin.all ++ Fallback.properties).find?
        fun other => other.key = setting.key with
    | none => simpa using List.find?_eq_none.mp hFound setting hSetting
    | some other =>
        have hKey : other.key = setting.key := by simpa using List.find?_some hFound
        have hOther := List.mem_of_find?_eq_some hFound
        rw [List.inj_on_of_nodup_map nodup_builtin_keys hOther hSetting hKey]

/-- What holds of a catalog, whatever was contributed to it. -/
structure IsOrderly (catalog : Catalog) : Prop where
  /-- A built-in key means the built-in setting. -/
  builtin : ∀ setting ∈ Builtin.all ++ Fallback.properties,
    catalog.resolve? setting.key = some setting
  /-- Any other key means what was contributed for it. -/
  contributed : ∀ key, (∀ setting ∈ Builtin.all ++ Fallback.properties, setting.key ≠ key) →
    catalog.resolve? key = catalog.contributed? key
  resolve_key : ∀ key setting, catalog.resolve? key = some setting → setting.key = key
  contributed_key : ∀ key setting, catalog.contributed? key = some setting → setting.key = key
  /-- Contributions are listed as they are found by their keys. -/
  listed : ∀ setting, setting ∈ catalog.contributions ↔
    catalog.contributed? setting.key = some setting
  increasing : (catalog.contributions.map Descriptor.key).Pairwise fun first second =>
    compare first second = .lt
  /-- In whatever order they are found, sorting contributions by key lists them so. -/
  sorted : ∀ found : List Descriptor, found.Perm catalog.contributions →
    (found.mergeSort fun first second => (compare first.key second.key).isLE) =
      catalog.contributions

/-- However a catalog is built, it is orderly. -/
theorem Built.isOrderly {published : Set Descriptor} (hBuilt : Built published catalog) :
    IsOrderly catalog := by
  have hKey : ∀ key setting, catalog.contributed? key = some setting → setting.key = key :=
    fun _ _ hFound => (hBuilt.contributed? hFound).1
  have hEntry : ∀ entry ∈ catalog.contributed.entries, entry.2.key = entry.1 :=
    fun entry hMem => hKey entry.1 entry.2 (SortedMap.mem_entries_iff.mp hMem)
  have hKeyed : catalog.contributions.map (fun setting => (setting.key, setting)) =
      catalog.contributed.entries := by
    rw [contributions, List.map_map]
    refine (List.map_congr_left fun entry hMem => ?_).trans (List.map_id _)
    exact Prod.ext (hEntry entry hMem) rfl
  refine ⟨fun setting hSetting => ?_, fun key hOther => ?_, fun key setting hFound => ?_, hKey,
    fun setting => ?_, ?_, fun found hOrder => ?_⟩
  · rw [Catalog.resolve?, builtin?_eq_some_iff.mpr ⟨hSetting, rfl⟩, Option.some_or]
  · have hNone : builtin? key = none := by
      rw [builtin?_eq_find?, List.find?_eq_none]
      simpa using hOther
    rw [Catalog.resolve?, hNone, Option.none_or]
  · rcases Option.or_eq_some_iff.mp hFound with hFound | ⟨-, hFound⟩
    · exact (builtin?_eq_some_iff.mp hFound).2
    · exact hKey key setting hFound
  · rw [Catalog.contributed?, ← SortedMap.mem_entries_iff, contributions, List.mem_map]
    constructor
    · rintro ⟨⟨key, found⟩, hMem, rfl⟩
      rwa [hEntry _ hMem]
    · exact fun hMem => ⟨_, hMem, rfl⟩
  · have hIncreasing := catalog.contributed.increasing
    rw [← hKeyed, List.pairwise_map] at hIncreasing
    exact List.pairwise_map.mpr hIncreasing
  · have hPerm : (found.map fun setting => (setting.key, setting)).Perm
        catalog.contributed.entries := hKeyed ▸ hOrder.map _
    have hSorted := congrArg (List.map Prod.snd) (SortedMap.map_mergeSort_of_perm hPerm)
    rw [List.map_map] at hSorted
    exact (List.map_id _).symm.trans hSorted

end Catalog

/-- If the clients cannot be listed or any of them crashes, nothing is contributed. Otherwise the
last setting with a key counts, of all that the clients have of their own in their order. Calls that
register settings follow the same rule. In every case, built-in keys mean the built-in settings,
other keys what was contributed for them, and contributions are listed in order of their keys. -/
theorem discover_last_wins_or_nothing :
    (∀ discovery : Discovery, discovery.Fails →
      (∀ key, (Catalog.discover discovery).contributed? key = none) ∧
        (Catalog.discover discovery).contributions = []) ∧
    (∀ contributions : List Contribution, .crash ∉ contributions → ∀ key,
      IsLastGiven (Descriptor.keyed? key) (contributions.flatMap Contribution.own)
        ((Catalog.discover (.clients contributions)).contributed? key)) ∧
    (∀ (registrations : List Registration) (key : String),
      IsLastGiven (Descriptor.keyed? key) (registrations.flatMap Registration.settings)
        ((Catalog.registered registrations).contributed? key)) ∧
    (∀ discovery, (Catalog.discover discovery).IsOrderly) ∧
    ∀ registrations, (Catalog.registered registrations).IsOrderly := by
  refine ⟨fun discovery hFails => ?_, fun contributions hCrash key => ?_,
    fun registrations key => ?_, fun discovery => ?_, fun registrations => ?_⟩
  · rw [Catalog.discover_of_fails hFails]
    exact ⟨fun _ => rfl, rfl⟩
  · rw [Catalog.discover_of_not_crash hCrash]
    exact Catalog.isLastGiven_contributed? _ key
  · rw [Catalog.registered_eq]
    exact Catalog.isLastGiven_contributed? _ key
  · have hBuilt : (Catalog.discover discovery).Built Set.univ :=
      Catalog.built_discover fun _ _ _ _ _ _ setting _ => Set.mem_univ setting
    exact hBuilt.isOrderly
  · have hBuilt : (Catalog.registered registrations).Built Set.univ := by
      rw [Catalog.registered_eq]
      exact Catalog.Built.builtin.registerAll fun setting _ => Set.mem_univ setting
    exact hBuilt.isOrderly

/-- A setting that clients may contribute, with this scope. -/
def queueSize (scope : String) : Descriptor := ⟨scope, "queue_size", .int 8, ""⟩

/-- The later client's setting counts; with a client that crashes in addition, none does. -/
theorem discover_queueSize :
    .crash ∉ [Contribution.declared [queueSize "first"], .declared [queueSize "second"]] ∧
    IsLastGiven (Descriptor.keyed? "queue_size") [queueSize "first", queueSize "second"]
      ((Catalog.discover (.clients [.declared [queueSize "first"],
        .declared [queueSize "second"]])).contributed? "queue_size") ∧
    (Discovery.clients [.declared [queueSize "first"], .crash]).Fails ∧
    (Catalog.discover (.clients [.declared [queueSize "first"], .crash])).contributed?
      "queue_size" = none := by
  have hCrash : .crash ∉ [Contribution.declared [queueSize "first"],
      .declared [queueSize "second"]] := by
    simp
  have hFails : (Discovery.clients [.declared [queueSize "first"], .crash]).Fails := by
    simp [Discovery.Fails]
  exact ⟨hCrash, discover_last_wins_or_nothing.2.1 _ hCrash "queue_size", hFails,
    (discover_last_wins_or_nothing.1 _ hFails).1 "queue_size"⟩

end DbClient.Setting
