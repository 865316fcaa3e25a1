import DbClient.Proofs.Session.Assembly
import DbClient.Proofs.Session.Reachable

/-! Typed reads of settings. Main statement: `typed_reads_exact` says that a setting can be read at
its declared type and at no other, and that then the value is the one that is set, else the one
that its environment variable denotes, else its declared default. Nothing that a session reads
comes out blank for want of a value of the right type. -/

namespace DbClient

open Setting

variable {published : Set Descriptor} {env : Environment} {settings : Assignment}
  {setting fallback : Descriptor} {value : Value} {configuration : Configuration}

/-- Where a setting gets a value from. -/
inductive HasValue (env : Environment) (settings : Assignment) (setting : Descriptor) :
    Value → Prop where
  | set {value : Value} (hSet : settings.get? setting.id = some value) :
      HasValue env settings setting value
  | environment {text : String} {value : Value} (hUnset : settings.get? setting.id = none)
      (hText : env.lookup? setting.environmentVariable = some text)
      (hValue : Value.parse text setting.type = .ok value) : HasValue env settings setting value
  | declared (hUnset : settings.get? setting.id = none)
      (hText : ∀ text, env.lookup? setting.environmentVariable = some text →
        ∀ value, Value.parse text setting.type ≠ .ok value) :
      HasValue env settings setting setting.default

/-- The default in an environment is what the variable denotes, if it denotes something. -/
theorem Setting.Descriptor.effectiveDefault_eq_iff : setting.effectiveDefault env = value ↔
    (∃ text, env.lookup? setting.environmentVariable = some text ∧
      Value.parse text setting.type = .ok value) ∨
    (∀ text, env.lookup? setting.environmentVariable = some text →
      ∀ other, Value.parse text setting.type ≠ .ok other) ∧ setting.default = value := by
  rw [effectiveDefault]
  cases env.lookup? setting.environmentVariable with
  | none => simp
  | some text => cases hParse : Value.parse text setting.type <;> simp [hParse]

/-- An effective default is of the declared type, also if it comes from a variable. -/
theorem Setting.Descriptor.type_effectiveDefault :
    (setting.effectiveDefault env).type = setting.type := by
  rcases effectiveDefault_eq_iff.mp (rfl : setting.effectiveDefault env = _) with
    ⟨text, -, hParse⟩ | ⟨-, hDefault⟩
  · exact Value.type_of_parse hParse
  · rw [← hDefault, Descriptor.type]

/-- Reading a value of the right type gives something, so that it does not come out blank. -/
theorem Setting.Value.as?_eq_some_getD {type : ValueType} (hType : value.type = type) :
    value.as? type = some ((value.as? type).getD type.blank) := by
  obtain ⟨element, hElement⟩ := Option.isSome_iff_exists.mp (as?_isSome_iff.mpr hType.symm)
  rw [hElement, Option.getD_some]

/-- Every setting has exactly one value. -/
theorem hasValue_iff : HasValue env settings setting value ↔ settings.value env setting = value := by
  rw [Assignment.value]
  constructor
  · intro hValue
    cases hValue with
    | set hSet => rw [hSet, Option.getD_some]
    | environment hUnset hText hParse =>
        rw [hUnset, Option.getD_none]
        exact Descriptor.effectiveDefault_eq_iff.mpr (.inl ⟨_, hText, hParse⟩)
    | declared hUnset hText =>
        rw [hUnset, Option.getD_none]
        exact Descriptor.effectiveDefault_eq_iff.mpr (.inr ⟨hText, rfl⟩)
  · intro hValue
    cases hGet : settings.get? setting.id with
    | some found =>
        rw [hGet, Option.getD_some] at hValue
        exact .set (hGet.trans (congrArg some hValue))
    | none =>
        rw [hGet, Option.getD_none] at hValue
        rcases Descriptor.effectiveDefault_eq_iff.mp hValue with ⟨text, hText, hParse⟩ | ⟨hText, rfl⟩
        · exact .environment hGet hText hParse
        · exact .declared hGet hText

namespace Configuration

/-- Every value of a setting is of its declared type. -/
theorem Reachable.type_value (hReachable : configuration.Reachable published)
    (hPublication : IsPublication published) (hSetting : setting ∈ published) :
    (configuration.layer.settings.value env setting).type = setting.type := by
  rw [Assignment.value]
  cases hGet : configuration.layer.settings.get? setting.id with
  | some found => exact hReachable.type_eq hPublication hSetting hGet
  | none => exact Descriptor.type_effectiveDefault

/-- A value with a fallback of the same type is of the declared type. -/
theorem Reachable.type_valueOr (hReachable : configuration.Reachable published)
    (hPublication : IsPublication published) (hSetting : setting ∈ published)
    (hFallback : fallback.type = setting.type) :
    (configuration.layer.settings.valueOr env setting fallback).type = setting.type := by
  rw [Assignment.valueOr]
  cases hGet : configuration.layer.settings.get? setting.id with
  | some found => exact hReachable.type_eq hPublication hSetting hGet
  | none => exact Descriptor.type_effectiveDefault.trans hFallback

/-- No read of a parameter fails for its type. -/
theorem Reachable.assemble_strict (hReachable : configuration.Reachable published)
    (hPublication : IsPublication published) :
    Parameters.assemble (.strict env configuration.layer.settings) (.ofEnvironment env) =
      some (Parameters.derive env configuration.layer.settings) := by
  rw [← Parameters.assemble_total]
  refine Eq.trans (Parameters.assemble_congr ?_ ?_ _) (Parameters.assemble_lift (m := Option) _ _)
  · intro setting hSetting
    exact Value.as?_eq_some_getD (hReachable.type_value hPublication
      (hPublication.builtin setting (ownSettings_subset hSetting)))
  · have hTypes : ∀ pair ∈ backedSettings, pair.1 ∈ Builtin.all ∧ pair.2.type = pair.1.type := by
      decide +kernel
    intro pair hPair
    obtain ⟨hSetting, hFallback⟩ := hTypes pair hPair
    exact Value.as?_eq_some_getD (hReachable.type_valueOr hPublication
      (hPublication.builtin pair.1 hSetting) hFallback)

/-- No read of credentials fails for its type. -/
theorem Reachable.assemble_credentials (hReachable : configuration.Reachable published)
    (hPublication : IsPublication published) :
    Credentials.assemble (.strict env configuration.layer.settings) =
      some (settingCredentials env configuration.layer.settings) := by
  have hRead (setting : Descriptor) (hSetting : setting ∈ Fallback.all) :
      (configuration.layer.settings.value env setting).as? setting.type =
        some (Parameters.read setting.type env configuration.layer.settings setting) :=
    Value.as?_eq_some_getD
      (hReachable.type_value hPublication (hPublication.fallback setting hSetting))
  exact Option.bind_eq_some_iff.mpr ⟨_, hRead Fallback.user (by decide),
    Option.bind_eq_some_iff.mpr ⟨_, hRead Fallback.password (by decide), rfl⟩⟩

theorem valueAs_of_ne {type : ValueType} (hType : type ≠ setting.type) :
    configuration.valueAs type env setting =
      .error (.typeMismatch setting.key setting.type type) := by
  rw [valueAs, if_neg hType]

theorem valueAs_of_as? {type : ValueType} {element : type.Carrier} (hType : type = setting.type)
    (hElement : (configuration.value env setting).as? type = some element) :
    configuration.valueAs type env setting = .ok element := by
  rw [valueAs, if_pos hType, hElement]

/-- In a configuration of published settings, each of them can be read at its declared type and at
no other, in any environment; then the value is the one that is set, else the one that its
environment variable denotes, else its declared default. A read at another type tells both types,
and this is the only way for it to fail. All that the parameters and the credentials of a session
are assembled from is of the type that it is read at, so that reads that give nothing for values of
other types lead to the same. -/
theorem typed_reads_exact (hPublication : IsPublication published)
    (hReachable : configuration.Reachable published) (env : Environment) :
    (∀ setting ∈ published, ∀ type : ValueType,
      (∀ element, configuration.valueAs type env setting = .ok element ↔
        type = setting.type ∧
          HasValue env configuration.layer.settings setting (.of type element)) ∧
      (type = setting.type → ∃ element, (configuration.value env setting).as? type = some element ∧
        configuration.valueAs type env setting = .ok element) ∧
      (type ≠ setting.type → configuration.valueAs type env setting =
        .error (.typeMismatch setting.key setting.type type))) ∧
    Parameters.assemble (.strict env configuration.layer.settings) (.ofEnvironment env) =
      some (Parameters.derive env configuration.layer.settings) ∧
    Credentials.assemble (.strict env configuration.layer.settings) =
      some (settingCredentials env configuration.layer.settings) := by
  refine ⟨fun setting hSetting type => ?_, hReachable.assemble_strict hPublication,
    hReachable.assemble_credentials hPublication⟩
  have hValue : (configuration.value env setting).type = setting.type :=
    hReachable.type_value hPublication hSetting
  have hSome (hType : type = setting.type) : ∃ element,
      (configuration.value env setting).as? type = some element ∧
        configuration.valueAs type env setting = .ok element := by
    obtain ⟨element, hElement⟩ := Option.isSome_iff_exists.mp
      (Value.as?_isSome_iff.mpr (hType.trans hValue.symm))
    exact ⟨element, hElement, valueAs_of_as? hType hElement⟩
  refine ⟨fun element => ⟨fun hOk => ?_, fun ⟨hType, hHas⟩ => ?_⟩, hSome, valueAs_of_ne⟩
  · by_cases hType : type = setting.type
    · obtain ⟨found, hFound, hFoundOk⟩ := hSome hType
      cases hFoundOk.symm.trans hOk
      exact ⟨hType, hasValue_iff.mpr (Value.as?_eq_some_iff.mp hFound)⟩
    · rw [valueAs_of_ne hType] at hOk
      cases hOk
  · exact valueAs_of_as? hType (Value.as?_eq_some_iff.mpr (hasValue_iff.mp hHas))

/-- A setting that is contributed is read as a number, and not as a text. -/
theorem typed_reads_exact_framed :
    ∃ configuration, ofProperties .empty .framed [("max_frame_size", " 1024 ")] = .ok configuration ∧
      (∀ env, configuration.valueAs .long env maxFrameSize = .ok 1024) ∧
      ∀ env, configuration.valueAs .text env maxFrameSize =
        .error (.typeMismatch "max_frame_size" .long .text) := by
  have hAssign : Catalog.framed.assign [("max_frame_size", " 1024 ")] =
      .ok (.ofList [(maxFrameSize.id, .long 1024)]) := by
    decide +kernel
  have hRead : ofProperties .empty .framed [("max_frame_size", " 1024 ")] =
      .ok (ofLayer .empty (.ofSettings (.ofList [(maxFrameSize.id, .long 1024)]))) :=
    map_eq_ok_iff.mpr ⟨_, hAssign, rfl⟩
  have hSetting : maxFrameSize ∈ framedSettings := List.mem_append_right _ (by decide)
  have hReachable := Reachable.ofProperties Catalog.built_framed hRead
  refine ⟨_, hRead, fun env => ?_, fun env => ?_⟩
  · obtain ⟨hOk, -, -⟩ :=
      (typed_reads_exact isPublication_framedSettings hReachable env).1 maxFrameSize hSetting .long
    exact (hOk 1024).mpr ⟨rfl, .set (by decide +kernel)⟩
  · obtain ⟨-, -, hMismatch⟩ :=
      (typed_reads_exact isPublication_framedSettings hReachable env).1 maxFrameSize hSetting .text
    exact hMismatch (by decide)

end Configuration

end DbClient
