import DbClient.Proofs.Session.Reading
import Mathlib.Tactic.IntervalCases

/-! Environment variables in the place of settings. Main statement: `override_eq_set` says that a
setting that is not set may as well be given by its variable, except for the two modes of
buffering, which have a variable in common and take no notice of their own ones. -/

namespace DbClient

open Setting

variable {env : Environment} {settings : Assignment} {setting fallback overridden : Descriptor}
  {text : String} {value : Value}

theorem toLower_toUpper_of_isLower {c : Char} (hLower : c.isLower = true) :
    c.toUpper.toLower = c := by
  obtain ⟨hFirst, hLast⟩ : 97 ≤ c.toNat ∧ c.toNat ≤ 122 :=
    (Bool.and_eq_true_iff.mp hLower).imp of_decide_eq_true of_decide_eq_true
  rw [← Char.ofNat_toNat c]
  generalize c.toNat = n at hFirst hLast
  interval_cases n <;> rfl

namespace Setting.Descriptor

/-- Whether a key holds nothing but small letters and underscores. -/
def isPlain (setting : Descriptor) : Bool :=
  setting.key.toList.all fun c => c.isLower || c == '_'

/-- The name of a variable is that of its setting, in capitals and with underscores, behind a
prefix. -/
theorem toList_environmentVariable (setting : Descriptor) :
    setting.environmentVariable.toList = ['C', 'H', 'C', '_'] ++ setting.key.toList.map fun c =>
      if c = '.' ∨ c = '-' then '_' else c.toUpper := by
  rw [environmentVariable, String.toList_append, String.toList_map]
  rfl

/-- No setting is taken from the variable of the time zone. -/
theorem environmentVariable_ne_TZ (setting : Descriptor) : setting.environmentVariable ≠ "TZ" := by
  intro hVariable
  have hList := setting.toList_environmentVariable
  rw [hVariable] at hList
  cases hList

/-- In small letters, the variable of a setting shows its key. -/
theorem foldCase_environmentVariable (hPlain : setting.isPlain = true) :
    Text.foldCase setting.environmentVariable.toList =
      ['c', 'h', 'c', '_'] ++ setting.key.toList := by
  rw [toList_environmentVariable, Text.foldCase, List.map_append, List.map_map]
  have hLetter : ∀ c ∈ setting.key.toList,
      (if c = '.' ∨ c = '-' then '_' else c.toUpper).toLower = c := by
    intro c hc
    have hPlainChar : c.isLower = true ∨ c = '_' := by
      simpa using List.all_eq_true.mp hPlain c hc
    rcases hPlainChar with hLower | rfl
    · have hOther : ¬ (c = '.' ∨ c = '-') := by
        rintro (rfl | rfl) <;> cases hLower
      rw [if_neg hOther, toLower_toUpper_of_isLower hLower]
    · rfl
  exact congrArg (['c', 'h', 'c', '_'] ++ ·)
    ((List.map_congr_left hLetter).trans (List.map_id setting.key.toList))

/-- Settings with plain keys and the same variable have the same key. -/
theorem key_eq_of_environmentVariable_eq (hSetting : setting.isPlain = true)
    (hOverridden : overridden.isPlain = true)
    (hVariable : setting.environmentVariable = overridden.environmentVariable) :
    setting.key = overridden.key := by
  have hFold := foldCase_environmentVariable hSetting
  rw [hVariable, foldCase_environmentVariable hOverridden] at hFold
  exact (String.ext (List.append_cancel_left hFold)).symm

theorem environmentVariable_eq_of_key_eq (hKey : setting.key = overridden.key) :
    setting.environmentVariable = overridden.environmentVariable := by
  rw [environmentVariable, environmentVariable, hKey]

/-- A variable with a text of the type is the effective default of its setting. -/
theorem effectiveDefault_set (hParse : Value.parse text setting.type = .ok value) :
    setting.effectiveDefault (env.set setting.environmentVariable text) = value :=
  effectiveDefault_eq_iff.mpr (.inl ⟨text, if_pos rfl, hParse⟩)

/-- A variable does not matter to settings that have another one. -/
theorem effectiveDefault_set_of_ne {name : String} (hName : setting.environmentVariable ≠ name) :
    setting.effectiveDefault (env.set name text) = setting.effectiveDefault env := by
  have hLookup : (env.set name text).lookup? setting.environmentVariable =
      env.lookup? setting.environmentVariable :=
    if_neg hName
  rw [effectiveDefault, effectiveDefault, hLookup]

end Setting.Descriptor

/-- A variable does for a setting, where another one is read, if it is the variable of what that
one falls back to exactly when both are the same. -/
theorem Setting.Assignment.valueOr_override (hUnset : settings.get? overridden.id = none)
    (hParse : Value.parse text overridden.type = .ok value)
    (hSame : setting.id = overridden.id →
      fallback.environmentVariable = overridden.environmentVariable ∧
        fallback.type = overridden.type)
    (hOther : setting.id ≠ overridden.id →
      fallback.environmentVariable ≠ overridden.environmentVariable) :
    settings.valueOr (env.set overridden.environmentVariable text) setting fallback =
      Assignment.valueOr env (settings.insert overridden.id value) setting fallback := by
  rw [Assignment.valueOr, Assignment.valueOr, SortedMap.get?_insert]
  by_cases hId : setting.id = overridden.id
  · obtain ⟨hVariable, hType⟩ := hSame hId
    rw [if_pos hId, hId, hUnset, Option.getD_none, Option.getD_some, ← hVariable]
    exact Descriptor.effectiveDefault_set (hType ▸ hParse)
  · rw [if_neg hId, Descriptor.effectiveDefault_set_of_ne (hOther hId)]

theorem Setting.Assignment.valueOr_set_of_ne {name : String}
    (hName : fallback.environmentVariable ≠ name) :
    settings.valueOr (env.set name text) setting fallback =
      settings.valueOr env setting fallback := by
  rw [Assignment.valueOr, Assignment.valueOr, Descriptor.effectiveDefault_set_of_ne hName]

theorem Zone.ofEnvironment_set {name : String} (hName : name ≠ "TZ") :
    ofEnvironment (env.set name text) = ofEnvironment env := by
  have hLookup : (env.set name text).lookup? "TZ" = env.lookup? "TZ" := if_neg hName.symm
  rw [ofEnvironment, ofEnvironment, hLookup]
  rfl

/-- The settings that a session reads and that can be set by their keys. -/
def overridableSettings : List Descriptor := Builtin.all ++ Fallback.properties

/-- The modes of buffering, which share the default of one fallback. -/
def bufferingSettings : List Descriptor := [Builtin.requestBuffering, Builtin.responseBuffering]

/-- No two settings have a variable in common, not even with the fallback of the two modes. -/
theorem pairwise_environmentVariable :
    (Fallback.buffering :: overridableSettings).Pairwise fun first second =>
      first.environmentVariable ≠ second.environmentVariable := by
  have hPlain : ∀ setting ∈ Fallback.buffering :: overridableSettings,
      setting.isPlain = true := by
    decide +kernel
  have hKeys : (Fallback.buffering :: overridableSettings).Pairwise fun first second =>
      first.key ≠ second.key := by
    decide +kernel
  refine hKeys.imp_of_mem fun hFirst hSecond hKey hVariable => hKey ?_
  exact Descriptor.key_eq_of_environmentVariable_eq (hPlain _ hFirst) (hPlain _ hSecond) hVariable

/-- The fallback of buffering has a variable of its own. -/
theorem environmentVariable_ne_buffering (hSetting : setting ∈ overridableSettings) :
    Fallback.buffering.environmentVariable ≠ setting.environmentVariable :=
  (List.pairwise_cons.mp pairwise_environmentVariable).1 setting hSetting

/-- Among the settings that can be overridden, each has a variable of its own. -/
theorem eq_of_environmentVariable_eq (hSetting : setting ∈ overridableSettings)
    (hOverridden : overridden ∈ overridableSettings)
    (hVariable : setting.environmentVariable = overridden.environmentVariable) :
    setting = overridden := by
  have hDistinct : (overridableSettings.map Descriptor.environmentVariable).Nodup :=
    List.pairwise_map.mpr (List.pairwise_cons.mp pairwise_environmentVariable).2
  exact List.inj_on_of_nodup_map hDistinct hSetting hOverridden hVariable

theorem eq_of_id_eq (hSetting : setting ∈ overridableSettings)
    (hOverridden : overridden ∈ overridableSettings) (hId : setting.id = overridden.id) :
    setting = overridden :=
  eq_of_environmentVariable_eq hSetting hOverridden
    (Descriptor.environmentVariable_eq_of_key_eq (Id.mk.inj hId).2)

/-- What stands in for a setting has its key and type, unless the setting is a mode of buffering. -/
theorem spec_of_mem_backedSettings (hPair : (setting, fallback) ∈ backedSettings) :
    setting ∈ overridableSettings ∧
      (setting ∈ bufferingSettings ∧ fallback = Fallback.buffering ∨
        setting ∉ bufferingSettings ∧ fallback.key = setting.key ∧
          fallback.type = setting.type) := by
  have hAll : ∀ pair ∈ backedSettings, pair.1 ∈ overridableSettings ∧
      (pair.1 ∈ bufferingSettings ∧ pair.2 = Fallback.buffering ∨
        pair.1 ∉ bufferingSettings ∧ pair.2.key = pair.1.key ∧ pair.2.type = pair.1.type) := by
    decide +kernel
  exact hAll (setting, fallback) hPair

section

variable (hOverridden : overridden ∈ overridableSettings)
  (hUnset : settings.get? overridden.id = none)
  (hParse : Value.parse text overridden.type = .ok value)

include hOverridden hUnset hParse

/-- It makes no difference where a setting falls back to one with its own key and type. -/
theorem valueOr_override_of_key (hSetting : setting ∈ overridableSettings)
    (hKey : fallback.key = setting.key) (hType : fallback.type = setting.type) :
    settings.valueOr (env.set overridden.environmentVariable text) setting fallback =
      Assignment.valueOr env (settings.insert overridden.id value) setting fallback := by
  have hVariable := Descriptor.environmentVariable_eq_of_key_eq hKey
  refine Assignment.valueOr_override hUnset hParse (fun hId => ?_) fun hId hSame => hId ?_
  · cases eq_of_id_eq hSetting hOverridden hId
    exact ⟨hVariable, hType⟩
  · rw [eq_of_environmentVariable_eq hSetting hOverridden (hVariable.symm.trans hSame)]

/-- A variable does the same to a setting with a fallback as the setting itself does. -/
theorem valueOr_override (hBuffering : overridden ∉ bufferingSettings)
    (hPair : (setting, fallback) ∈ backedSettings) :
    settings.valueOr (env.set overridden.environmentVariable text) setting fallback =
      Assignment.valueOr env (settings.insert overridden.id value) setting fallback := by
  obtain ⟨hSetting, ⟨hMode, rfl⟩ | ⟨-, hKey, hType⟩⟩ := spec_of_mem_backedSettings hPair
  · refine Assignment.valueOr_override hUnset hParse (fun hId => ?_) fun _ =>
      environmentVariable_ne_buffering hOverridden
    cases eq_of_id_eq hSetting hOverridden hId
    exact absurd hMode hBuffering
  · exact valueOr_override_of_key hOverridden hUnset hParse hSetting hKey hType

end

section

variable (hBuffering : overridden ∈ bufferingSettings)

include hBuffering

theorem mem_overridableSettings_of_buffering : overridden ∈ overridableSettings := by
  have hSubset : bufferingSettings ⊆ overridableSettings := by decide +kernel
  exact hSubset hBuffering

theorem environmentVariable_ne_of_not_buffering (hSetting : setting ∈ overridableSettings)
    (hOther : setting ∉ bufferingSettings) :
    setting.environmentVariable ≠ overridden.environmentVariable := by
  intro hVariable
  have hSame : setting = overridden := eq_of_environmentVariable_eq hSetting
    (mem_overridableSettings_of_buffering hBuffering) hVariable
  exact hOther (hSame ▸ hBuffering)

/-- The variable of a buffering setting does not matter to other settings. -/
theorem value_set_buffering (hSetting : setting ∈ overridableSettings)
    (hOther : setting ∉ bufferingSettings) :
    settings.value (env.set overridden.environmentVariable text) setting =
      settings.value env setting :=
  Assignment.valueOr_set_of_ne (environmentVariable_ne_of_not_buffering hBuffering hSetting hOther)

/-- No setting with a fallback takes notice of the variable of a mode of buffering, not even that
mode itself. -/
theorem valueOr_set_buffering (hPair : (setting, fallback) ∈ backedSettings) :
    settings.valueOr (env.set overridden.environmentVariable text) setting fallback =
      settings.valueOr env setting fallback := by
  refine Assignment.valueOr_set_of_ne ?_
  obtain ⟨hSetting, ⟨-, rfl⟩ | ⟨hOther, hKey, -⟩⟩ := spec_of_mem_backedSettings hPair
  · exact environmentVariable_ne_buffering (mem_overridableSettings_of_buffering hBuffering)
  · rw [Descriptor.environmentVariable_eq_of_key_eq hKey]
    exact environmentVariable_ne_of_not_buffering hBuffering hSetting hOther

end

namespace Configuration

/-- Let a setting be one that a session reads, and not be set. Then all that follows from giving it
by its variable is what follows from setting it to what the variable denotes, unless it is a mode of
buffering; a mode of buffering that is given by its own variable changes nothing. -/
theorem override_eq_set {layer : Layer} (hSetting : setting ∈ overridableSettings)
    (hUnset : layer.settings.get? setting.id = none)
    (hParse : Value.parse text setting.type = .ok value) (env : Environment) :
    ∃ explicit, layer.set setting value = .ok explicit ∧
      (setting ∉ bufferingSettings →
        (ofLayer (env.set setting.environmentVariable text) layer).parameters =
          (ofLayer env explicit).parameters ∧
        (ofLayer (env.set setting.environmentVariable text) layer).credentials =
          (ofLayer env explicit).credentials) ∧
      (setting ∈ bufferingSettings →
        (ofLayer (env.set setting.environmentVariable text) layer).parameters =
          (ofLayer env layer).parameters ∧
        (ofLayer (env.set setting.environmentVariable text) layer).credentials =
          (ofLayer env layer).credentials) := by
  have hSet : layer.set setting value =
      .ok { layer with settings := layer.settings.insert setting.id value } :=
    map_eq_ok_iff.mpr ⟨_, Assignment.set_eq_ok_iff.mpr ⟨Value.type_of_parse hParse, rfl⟩, rfl⟩
  have hRead : ownSettings ++ Fallback.properties ⊆ overridableSettings :=
    List.append_subset.mpr
      ⟨List.Subset.trans ownSettings_subset (List.subset_append_left _ _),
        List.subset_append_right _ _⟩
  have hOwn : ∀ setting ∈ ownSettings ++ Fallback.properties, setting ∉ bufferingSettings := by
    decide +kernel
  have hZone : Zone.ofEnvironment (env.set setting.environmentVariable text) = .ofEnvironment env :=
    Zone.ofEnvironment_set setting.environmentVariable_ne_TZ
  refine ⟨_, hSet, fun hOther => ?_, fun hBuffering => ?_⟩
  · exact ofLayer_congr rfl
      (fun _ hMem => valueOr_override_of_key hSetting hUnset hParse (hRead hMem) rfl rfl)
      (fun _ hPair => valueOr_override hSetting hUnset hParse hOther hPair) hZone
  · exact ofLayer_congr rfl
      (fun other hMem => value_set_buffering hBuffering (hRead hMem) (hOwn other hMem))
      (fun _ hPair => valueOr_set_buffering hBuffering hPair) hZone

/-- The variable may have blanks around its text, and any case. -/
theorem override_eq_set_ssl :
    ∃ explicit, Layer.empty.set Builtin.ssl (.flag true) = .ok explicit ∧
      (ofLayer (Environment.empty.set "CHC_SSL" " True ") .empty).parameters =
        (ofLayer .empty explicit).parameters ∧
      (ofLayer .empty explicit).parameters.ssl = true := by
  have hParse : Value.parse " True " Builtin.ssl.type = .ok (.flag true) := by decide +kernel
  have hVariable : Builtin.ssl.environmentVariable = "CHC_SSL" := by decide +kernel
  obtain ⟨explicit, hSet, hOverride, -⟩ := override_eq_set
    (by decide +kernel : Builtin.ssl ∈ overridableSettings)
    (rfl : Layer.empty.settings.get? Builtin.ssl.id = none) hParse .empty
  rw [hVariable] at hOverride
  refine ⟨explicit, hSet, (hOverride (by decide +kernel)).1, ?_⟩
  cases hSet
  decide +kernel

/-- The mode of buffering requests is not taken from its own variable. -/
theorem override_ne_set_requestBuffering :
    ¬ ∀ (env : Environment) (layer explicit : Layer) (setting : Descriptor) (text zone : String)
        (value : Value),
      env.lookup? "TZ" = some zone → Text.isBlankText zone = false →
      setting ∈ Builtin.all ++ Fallback.properties →
      layer.settings.get? setting.id = none → Value.parse text setting.type = .ok value →
      layer.set setting value = .ok explicit →
      (ofLayer (env.set setting.environmentVariable text) layer).parameters =
          (ofLayer env explicit).parameters ∧
        (ofLayer (env.set setting.environmentVariable text) layer).credentials =
          (ofLayer env explicit).credentials := by
  intro hAll
  have hSet : Layer.empty.set Builtin.requestBuffering (.buffering .performance) =
      .ok { Layer.empty with
        settings := SortedMap.ofList [(Builtin.requestBuffering.id, .buffering .performance)] } :=
    rfl
  obtain ⟨hParameters, -⟩ := hAll (.ofList [("TZ", "UTC")]) .empty _ Builtin.requestBuffering
    "PERFORMANCE" "UTC" (.buffering .performance) (by decide +kernel) (by decide +kernel)
    (by decide +kernel) rfl (by decide +kernel) hSet
  have hMode := congrArg Parameters.requestBuffering hParameters
  revert hMode
  decide +kernel

end Configuration

end DbClient
