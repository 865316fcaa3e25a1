import DbClient.Proofs.Session.Layering

/-! Settings looked up through a chain of configurations. Main statement: `search_eq_merge`, by
which a search from the last configuration down finds what the merged configuration has. -/

namespace DbClient.Configuration

open Setting

variable {ι : Type} (env : Environment) (setting : Descriptor)

/-- A search for a setting in one configuration after the other. It stops at the first one that
sets the setting, with its value there; behind all of them it finds the default. -/
def search (env : Environment) (setting : Descriptor) :
    List Configuration → Option Configuration × Value
  | [] => (none, setting.effectiveDefault env)
  | configuration :: below =>
    if configuration.isSet setting then (some configuration, configuration.value env setting)
    else search env setting below

theorem isSet_eq_isSome (configuration : Configuration) :
    configuration.isSet setting = (configuration.layer.settings.get? setting.id).isSome := rfl

/-- A search stops if some configuration sets the setting, and finds the value of the first one
that does. -/
theorem search_eq (chain : List Configuration) :
    let given? := chain.findSome? fun configuration =>
      configuration.layer.settings.get? setting.id
    (search env setting chain).1.isSome = given?.isSome ∧
      (search env setting chain).2 = given?.getD (setting.effectiveDefault env) := by
  induction chain with
  | nil => exact ⟨rfl, rfl⟩
  | cons configuration below ih =>
      rw [search, isSet_eq_isSome setting, List.findSome?_cons]
      cases hGet : configuration.layer.settings.get? setting.id with
      | none => exact ih
      | some value =>
          refine ⟨rfl, ?_⟩
          show Assignment.value env configuration.layer.settings setting = value
          rw [Assignment.value, hGet, Option.getD_some]

variable [DecidableEq ι]

/-- A merged configuration has what a search finds from the last of the objects down, each taken
where it occurs first. -/
theorem merge_eq_search (objects : ι → Configuration) (sources : List ι) :
    let found := search env setting (sources.eraseDups.reverse.map objects)
    let merged := merge env (identified objects sources)
    merged.isSet setting = found.1.isSome ∧ merged.value env setting = found.2 := by
  intro found merged
  obtain ⟨hStop, hValue⟩ := search_eq env setting
    (sources.eraseDups.reverse.map objects)
  have hGet : merged.layer.settings.get? setting.id =
      (sources.eraseDups.reverse.map objects).findSome? fun configuration =>
        configuration.layer.settings.get? setting.id := by
    rw [List.findSome?_map, layer_merge, Layer.get?_merge]
    rfl
  constructor
  · rw [isSet_eq_isSome setting, hGet]
    exact hStop.symm
  · show (merged.layer.settings.get? setting.id).getD _ = _
    rw [hGet]
    exact hValue.symm

omit [DecidableEq ι] in
/-- Falling back on another configuration is a search through the two of them. -/
theorem valueOrIn_eq_search (configuration fallback : Configuration) :
    configuration.valueOrIn env fallback setting =
      (search env setting [configuration, fallback]).2 := by
  rw [(search_eq env setting [configuration, fallback]).2, valueOrIn, value, Assignment.value]
  simp only [List.findSome?_cons, List.findSome?_nil]
  cases configuration.layer.settings.get? setting.id with
  | some found => rfl
  | none => cases fallback.layer.settings.get? setting.id <;> rfl

/-- Whether a configuration falls back on itself or on another one, it reads a setting as the merged
configuration of the two does. A search from the last of any objects down to the first, and then to
the default, finds what their merged configuration has, and stops at an object exactly if that
configuration sets the setting. -/
theorem search_eq_merge (env : Environment) (objects : ι → Configuration) (setting : Descriptor) :
    (∀ configuration fallback,
      (objects configuration).valueOrIn env (objects fallback) setting =
        (merge env (identified objects [fallback, configuration])).value env setting) ∧
    ∀ chain : List ι, chain.Nodup →
      let found := search env setting (chain.reverse.map objects)
      let merged := merge env (identified objects chain)
      found.2 = merged.value env setting ∧
        (merged.isSet setting = true ↔ ∃ layer, found.1 = some layer) := by
  constructor
  · intro configuration fallback
    rw [(merge_eq_search env setting objects [fallback, configuration]).2, valueOrIn_eq_search]
    by_cases hSame : fallback = configuration
    · -- The object counts once, and is searched in vain a second time.
      have hOnce : [configuration, configuration].eraseDups = [configuration] := by
        simp [List.eraseDups_cons]
      rw [hSame, hOnce, List.reverse_singleton, List.map_singleton]
      cases hSet : (objects configuration).isSet setting <;> simp [search, hSet]
    · have hApart : [fallback, configuration].Nodup := by simpa using hSame
      rw [eraseDups_of_nodup hApart]
      rfl
  · intro chain hChain found merged
    obtain ⟨hSet, hValue⟩ := merge_eq_search env setting objects chain
    rw [eraseDups_of_nodup hChain] at hSet hValue
    refine ⟨hValue.symm, ?_⟩
    rw [hSet, Option.isSome_iff_exists]

/-- The user is found in the last of three configurations, and the password in none of them. -/
theorem search_eq_merge_userLayers :
    [0, 1, 2].Nodup ∧
    (merge .empty (identified userLayers [0, 1, 2])).value .empty Fallback.user = .text "third" ∧
    (merge .empty (identified userLayers [0, 1, 2])).isSet Fallback.user = true ∧
    (merge .empty (identified userLayers [0, 1, 2])).value .empty Fallback.password = .text "" ∧
    ¬ (merge .empty (identified userLayers [0, 1, 2])).isSet Fallback.password = true := by
  have hChain : [0, 1, 2].Nodup := by decide
  obtain ⟨hUser, hUserSet⟩ :=
    (search_eq_merge .empty userLayers Fallback.user).2 [0, 1, 2] hChain
  obtain ⟨hPassword, hPasswordSet⟩ :=
    (search_eq_merge .empty userLayers Fallback.password).2 [0, 1, 2] hChain
  have hNone : (search .empty Fallback.password ([0, 1, 2].reverse.map userLayers)).1 = none := by
    decide +kernel
  refine ⟨hChain, hUser.symm.trans ?_, hUserSet.mpr ⟨userLayers 2, ?_⟩, hPassword.symm.trans ?_,
    fun hSet => ?_⟩
  · decide +kernel
  · decide +kernel
  · decide +kernel
  · obtain ⟨layer, hLayer⟩ := hPasswordSet.mp hSet
    rw [hNone] at hLayer
    cases hLayer

end DbClient.Configuration
