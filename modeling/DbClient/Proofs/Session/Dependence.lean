import DbClient.Proofs.Session.Assembly

/-! Which settings change what. Main statement: `agrees_iff_not_mem_dependents` says that what a
session asks for stays the same under any change of one setting, exactly if it is not among the
dependents of this setting. -/

namespace DbClient

open Setting

attribute [ext (iff := false)] BufferSizes Parameters

/-- What a session can ask of its configuration. -/
inductive Accessor where
  | credentials | selector
  | isAsync | autoDiscovery | customSettings | clientName
  | requestCompression | responseCompression
  | connectionTimeout | database | format
  | maxBufferSize | bufferSize | readBufferSize | writeBufferSize | requestChunkSize
  | bufferQueueVariation | requestBuffering | responseBuffering
  | maxExecutionTime | maxQueuedBuffers | maxQueuedRequests | maxResultRows | maxThreads
  | nodeCheckInterval | failover | retry | repeatOnSessionLock | reuseValueWrapper
  | hasServerInfo | serverTimeZone | serverVersion
  | sessionTimeout | sessionCheck | socketTimeout
  | ssl | sslMode | sslRootCertificate | sslCertificate | sslKey
  | transactionTimeout | useBlockingQueue | useObjectsInArrays | useNoProxy
  | useServerTimeZone | useServerTimeZoneForDates | timeZone | dateZone
  deriving DecidableEq, Repr

namespace Accessor

/-- Whether two configurations give the same answer. -/
def Agrees (first second : Configuration) : Accessor → Prop
  | credentials => first.credentials = second.credentials
  | selector => first.selector = second.selector
  | isAsync => first.parameters.isAsync = second.parameters.isAsync
  | autoDiscovery => first.parameters.autoDiscovery = second.parameters.autoDiscovery
  | customSettings => first.parameters.customSettings = second.parameters.customSettings
  | clientName => first.parameters.clientName = second.parameters.clientName
  | requestCompression =>
    first.parameters.requestCompression = second.parameters.requestCompression
  | responseCompression =>
    first.parameters.responseCompression = second.parameters.responseCompression
  | connectionTimeout => first.parameters.connectionTimeout = second.parameters.connectionTimeout
  | database => first.parameters.database = second.parameters.database
  | format => first.parameters.format = second.parameters.format
  | maxBufferSize => first.parameters.buffers.maximum = second.parameters.buffers.maximum
  | bufferSize => first.parameters.buffers.buffer = second.parameters.buffers.buffer
  | readBufferSize => first.parameters.buffers.read = second.parameters.buffers.read
  | writeBufferSize => first.parameters.buffers.write = second.parameters.buffers.write
  | requestChunkSize =>
    first.parameters.buffers.requestChunk = second.parameters.buffers.requestChunk
  | bufferQueueVariation =>
    first.parameters.bufferQueueVariation = second.parameters.bufferQueueVariation
  | requestBuffering => first.parameters.requestBuffering = second.parameters.requestBuffering
  | responseBuffering => first.parameters.responseBuffering = second.parameters.responseBuffering
  | maxExecutionTime => first.parameters.maxExecutionTime = second.parameters.maxExecutionTime
  | maxQueuedBuffers => first.parameters.maxQueuedBuffers = second.parameters.maxQueuedBuffers
  | maxQueuedRequests => first.parameters.maxQueuedRequests = second.parameters.maxQueuedRequests
  | maxResultRows => first.parameters.maxResultRows = second.parameters.maxResultRows
  | maxThreads => first.parameters.maxThreads = second.parameters.maxThreads
  | nodeCheckInterval => first.parameters.nodeCheckInterval = second.parameters.nodeCheckInterval
  | failover => first.parameters.failover = second.parameters.failover
  | retry => first.parameters.retry = second.parameters.retry
  | repeatOnSessionLock =>
    first.parameters.repeatOnSessionLock = second.parameters.repeatOnSessionLock
  | reuseValueWrapper => first.parameters.reuseValueWrapper = second.parameters.reuseValueWrapper
  | hasServerInfo => first.parameters.hasServerInfo = second.parameters.hasServerInfo
  | serverTimeZone => first.parameters.serverTimeZone = second.parameters.serverTimeZone
  | serverVersion => first.parameters.serverVersion = second.parameters.serverVersion
  | sessionTimeout => first.parameters.sessionTimeout = second.parameters.sessionTimeout
  | sessionCheck => first.parameters.sessionCheck = second.parameters.sessionCheck
  | socketTimeout => first.parameters.socketTimeout = second.parameters.socketTimeout
  | ssl => first.parameters.ssl = second.parameters.ssl
  | sslMode => first.parameters.sslMode = second.parameters.sslMode
  | sslRootCertificate =>
    first.parameters.sslRootCertificate = second.parameters.sslRootCertificate
  | sslCertificate => first.parameters.sslCertificate = second.parameters.sslCertificate
  | sslKey => first.parameters.sslKey = second.parameters.sslKey
  | transactionTimeout =>
    first.parameters.transactionTimeout = second.parameters.transactionTimeout
  | useBlockingQueue => first.parameters.useBlockingQueue = second.parameters.useBlockingQueue
  | useObjectsInArrays =>
    first.parameters.useObjectsInArrays = second.parameters.useObjectsInArrays
  | useNoProxy => first.parameters.useNoProxy = second.parameters.useNoProxy
  | useServerTimeZone => first.parameters.useServerTimeZone = second.parameters.useServerTimeZone
  | useServerTimeZoneForDates =>
    first.parameters.useServerTimeZoneForDates = second.parameters.useServerTimeZoneForDates
  | timeZone => first.parameters.timeZone = second.parameters.timeZone
  | dateZone => first.parameters.dateZone? = second.parameters.dateZone?

instance (first second : Configuration) (accessor : Accessor) :
    Decidable (accessor.Agrees first second) := by
  cases accessor <;> exact inferInstanceAs (Decidable (_ = _))

/-- The settings that an answer is worked out from. -/
def sources : Accessor → List Descriptor
  | credentials => [Fallback.user, Fallback.password]
  | selector => []
  | isAsync => [Builtin.async]
  | autoDiscovery => [Builtin.autoDiscovery]
  | customSettings => [Builtin.customSettings]
  | clientName => [Builtin.clientName]
  | requestCompression =>
    [Builtin.decompress, Builtin.decompressAlgorithm, Builtin.decompressLevel]
  | responseCompression => [Builtin.compress, Builtin.compressAlgorithm, Builtin.compressLevel]
  | connectionTimeout => [Builtin.connectionTimeout]
  | database => [Builtin.database]
  | format => [Builtin.format]
  | maxBufferSize => [Builtin.maxBufferSize]
  | bufferSize => [Builtin.maxBufferSize, Builtin.bufferSize]
  | readBufferSize => [Builtin.maxBufferSize, Builtin.bufferSize, Builtin.readBufferSize]
  | writeBufferSize => [Builtin.maxBufferSize, Builtin.bufferSize, Builtin.writeBufferSize]
  | requestChunkSize =>
    [Builtin.maxBufferSize, Builtin.bufferSize, Builtin.writeBufferSize, Builtin.requestChunkSize]
  | bufferQueueVariation => [Builtin.bufferQueueVariation]
  | requestBuffering => [Builtin.requestBuffering]
  | responseBuffering => [Builtin.responseBuffering]
  | maxExecutionTime => [Builtin.maxExecutionTime]
  | maxQueuedBuffers => [Builtin.maxQueuedBuffers]
  | maxQueuedRequests => [Builtin.maxQueuedRequests]
  | maxResultRows => [Builtin.maxResultRows]
  | maxThreads => [Builtin.maxThreadsPerClient]
  | nodeCheckInterval => [Builtin.nodeCheckInterval]
  | failover => [Builtin.failover]
  | retry => [Builtin.retry]
  | repeatOnSessionLock => [Builtin.repeatOnSessionLock]
  | reuseValueWrapper => [Builtin.reuseValueWrapper]
  | hasServerInfo => [Builtin.serverTimeZone, Builtin.serverVersion]
  | serverTimeZone => [Builtin.serverTimeZone]
  | serverVersion => [Builtin.serverVersion]
  | sessionTimeout => [Builtin.sessionTimeout]
  | sessionCheck => [Builtin.sessionCheck]
  | socketTimeout => [Builtin.socketTimeout]
  | ssl => [Builtin.ssl]
  | sslMode => [Builtin.sslMode]
  | sslRootCertificate => [Builtin.sslRootCertificate]
  | sslCertificate => [Builtin.sslCertificate]
  | sslKey => [Builtin.sslKey]
  | transactionTimeout => [Builtin.sessionTimeout, Builtin.transactionTimeout]
  | useBlockingQueue => [Builtin.useBlockingQueue]
  | useObjectsInArrays => [Builtin.useObjectsInArrays]
  | useNoProxy => [Builtin.useNoProxy]
  | useServerTimeZone => [Builtin.useServerTimeZone]
  | useServerTimeZoneForDates => [Builtin.useServerTimeZoneForDates]
  | timeZone => [Builtin.serverTimeZone, Builtin.useServerTimeZone, Builtin.useTimeZone]
  | dateZone =>
    [Builtin.serverTimeZone, Builtin.useServerTimeZone, Builtin.useTimeZone,
      Builtin.useServerTimeZoneForDates]

end Accessor

/-- For each setting, the answers that it has a part in. What a client sends is compressed by the
settings for decompressing, and the other way round. -/
def influences : List (Descriptor × List Accessor) :=
  [(Fallback.user, [.credentials]),
    (Fallback.password, [.credentials]),
    (Builtin.async, [.isAsync]),
    (Builtin.autoDiscovery, [.autoDiscovery]),
    (Builtin.customSettings, [.customSettings]),
    (Builtin.clientName, [.clientName]),
    (Builtin.compress, [.responseCompression]),
    (Builtin.compressAlgorithm, [.responseCompression]),
    (Builtin.compressLevel, [.responseCompression]),
    (Builtin.decompress, [.requestCompression]),
    (Builtin.decompressAlgorithm, [.requestCompression]),
    (Builtin.decompressLevel, [.requestCompression]),
    (Builtin.connectionTimeout, [.connectionTimeout]),
    (Builtin.database, [.database]),
    (Builtin.format, [.format]),
    (Builtin.maxBufferSize,
      [.maxBufferSize, .bufferSize, .readBufferSize, .writeBufferSize, .requestChunkSize]),
    (Builtin.bufferSize, [.bufferSize, .readBufferSize, .writeBufferSize, .requestChunkSize]),
    (Builtin.bufferQueueVariation, [.bufferQueueVariation]),
    (Builtin.readBufferSize, [.readBufferSize]),
    (Builtin.writeBufferSize, [.writeBufferSize, .requestChunkSize]),
    (Builtin.requestChunkSize, [.requestChunkSize]),
    (Builtin.requestBuffering, [.requestBuffering]),
    (Builtin.responseBuffering, [.responseBuffering]),
    (Builtin.maxExecutionTime, [.maxExecutionTime]),
    (Builtin.maxQueuedBuffers, [.maxQueuedBuffers]),
    (Builtin.maxQueuedRequests, [.maxQueuedRequests]),
    (Builtin.maxResultRows, [.maxResultRows]),
    (Builtin.maxThreadsPerClient, [.maxThreads]),
    (Builtin.nodeCheckInterval, [.nodeCheckInterval]),
    (Builtin.failover, [.failover]),
    (Builtin.retry, [.retry]),
    (Builtin.repeatOnSessionLock, [.repeatOnSessionLock]),
    (Builtin.reuseValueWrapper, [.reuseValueWrapper]),
    (Builtin.serverTimeZone, [.hasServerInfo, .serverTimeZone, .timeZone, .dateZone]),
    (Builtin.serverVersion, [.hasServerInfo, .serverVersion]),
    (Builtin.sessionTimeout, [.sessionTimeout, .transactionTimeout]),
    (Builtin.sessionCheck, [.sessionCheck]),
    (Builtin.socketTimeout, [.socketTimeout]),
    (Builtin.ssl, [.ssl]),
    (Builtin.sslMode, [.sslMode]),
    (Builtin.sslRootCertificate, [.sslRootCertificate]),
    (Builtin.sslCertificate, [.sslCertificate]),
    (Builtin.sslKey, [.sslKey]),
    (Builtin.transactionTimeout, [.transactionTimeout]),
    (Builtin.useBlockingQueue, [.useBlockingQueue]),
    (Builtin.useObjectsInArrays, [.useObjectsInArrays]),
    (Builtin.useNoProxy, [.useNoProxy]),
    (Builtin.useServerTimeZone, [.useServerTimeZone, .timeZone, .dateZone]),
    (Builtin.useServerTimeZoneForDates, [.useServerTimeZoneForDates, .dateZone]),
    (Builtin.useTimeZone, [.timeZone, .dateZone])]

/-- The answers that the setting with an identity has a part in. -/
def dependents (id : Id) : List Accessor :=
  (influences.filter fun row => row.1.id = id).flatMap Prod.snd

/-- Layers that differ at most in whether and to what they set one setting. -/
structure Layer.AgreeOutside (id : Id) (first second : Layer) : Prop where
  settings : ∀ other, other ≠ id → first.settings.get? other = second.settings.get? other
  credentials : first.credentials? = second.credentials?
  selector : first.selector? = second.selector?
  metrics : first.metrics? = second.metrics?

namespace Accessor

variable {accessor : Accessor} {id : Id} {env : Environment} {first second : Layer}

/-- What depends on a setting is what stands in its rows. -/
theorem mem_dependents_iff :
    accessor ∈ dependents id ↔ ∃ row ∈ influences, accessor ∈ row.2 ∧ row.1.id = id := by
  simp only [dependents, List.mem_flatMap, List.mem_filter, decide_eq_true_eq]
  constructor
  · rintro ⟨row, ⟨hRow, hId⟩, hAccessor⟩
    exact ⟨row, hRow, hAccessor, hId⟩
  · rintro ⟨row, hRow, hAccessor, hId⟩
    exact ⟨row, ⟨hRow, hId⟩, hAccessor⟩

/-- What is read from a setting depends on it. -/
theorem mem_dependents_of_mem_sources {setting : Descriptor}
    (hSetting : setting ∈ accessor.sources) : accessor ∈ dependents setting.id := by
  have hRow : ∀ setting ∈ accessor.sources,
      ∃ row ∈ influences, accessor ∈ row.2 ∧ row.1.id = setting.id := by
    cases accessor <;> decide +kernel
  exact mem_dependents_iff.mpr (hRow setting hSetting)

/-- Answers agree where the settings agree that they are worked out from. -/
theorem agrees_ofLayer (hCredentials : first.credentials? = second.credentials?)
    (hSelector : first.selector? = second.selector?)
    (hSettings : ∀ setting ∈ accessor.sources,
      first.settings.get? setting.id = second.settings.get? setting.id) :
    accessor.Agrees (.ofLayer env first) (.ofLayer env second) := by
  have hRead : ∀ setting ∈ accessor.sources, ∀ type,
      Parameters.read type env first.settings setting =
        Parameters.read type env second.settings setting := by
    intro setting hSetting type
    rw [Parameters.read, Parameters.read, Assignment.value, Assignment.value,
      hSettings setting hSetting]
  have hReadOr : ∀ setting ∈ accessor.sources, ∀ type fallback,
      Parameters.readOr type env first.settings setting fallback =
        Parameters.readOr type env second.settings setting fallback := by
    intro setting hSetting type fallback
    rw [Parameters.readOr, Parameters.readOr, Assignment.valueOr, Assignment.valueOr,
      hSettings setting hSetting]
  cases accessor <;> simp only [sources, List.forall_mem_cons] at hRead hReadOr <;>
    simp only [Agrees, Configuration.ofLayer, Configuration.settingCredentials,
      Parameters.derive, Parameters.serverZone, BufferSizes.resolve, hCredentials, hSelector,
      hRead, hReadOr]

/-- What does not depend on a setting answers the same, whatever the setting is. -/
theorem agrees_of_not_mem_dependents (hOutside : first.AgreeOutside id second)
    (hAccessor : accessor ∉ dependents id) :
    accessor.Agrees (.ofLayer env first) (.ofLayer env second) := by
  refine agrees_ofLayer hOutside.credentials hOutside.selector fun setting hSetting => ?_
  refine hOutside.settings setting.id fun hId => hAccessor ?_
  exact hId ▸ mem_dependents_of_mem_sources hSetting

/-- A value of the same type that says something else. -/
def altered : Value → Value
  | .flag value => .flag !value
  | .int _ => .int 1
  | .long _ => .long 1
  | .text _ => .text "a=1"
  | .compression _ => .compression .zstd
  | .format _ => .format .csv
  | .buffering _ => .buffering .performance
  | .sslMode _ => .sslMode .none

/-- Settings under which an answer shows a change of one setting. The zone that is configured
shows only where that of the server is not used. -/
def revealing (changed : Descriptor) : Accessor → List (Id × Value)
  | hasServerInfo =>
    [(Builtin.serverTimeZone.id, .text "UTC"), (Builtin.serverVersion.id, .text "1")]
  | timeZone =>
    [(Builtin.useServerTimeZone.id, .flag (changed.key ≠ Builtin.useTimeZone.key)),
      (Builtin.useTimeZone.id, .text "a=1")]
  | dateZone =>
    [(Builtin.useServerTimeZoneForDates.id, .flag true),
      (Builtin.useServerTimeZone.id, .flag (changed.key ≠ Builtin.useTimeZone.key)),
      (Builtin.useTimeZone.id, .text "a=1")]
  | _ => []

end Accessor

/-- Reads of what a list says, where later entries win, and of declared defaults. -/
def Reads.listed (entries : List (Id × Value)) : Reads Id where
  own type setting :=
    ((((entries.reverse.find? fun entry => entry.1 = setting.id).map Prod.snd).getD
      setting.default).as? type).getD type.blank
  backed type setting fallback :=
    ((((entries.reverse.find? fun entry => entry.1 = setting.id).map Prod.snd).getD
      fallback.default).as? type).getD type.blank

/-- Settings that are listed are read from the list. -/
theorem Reads.total_ofList (entries : List (Id × Value)) :
    total .empty (.ofList entries) = listed entries := by
  have hGet (id : Id) : (SortedMap.ofList entries : Assignment).get? id =
      (entries.reverse.find? fun entry => entry.1 = id).map Prod.snd := by
    rw [SortedMap.ofList, SortedMap.get?_insertAll, SortedMap.get?_empty, Option.or_none]
  simp only [total, listed, Parameters.read, Parameters.readOr, Assignment.value,
    Assignment.valueOr, hGet]
  rfl

/-- The configuration in a process without variables that sets what a list says. -/
def Configuration.listed (entries : List (Id × Value)) : Configuration where
  layer := .ofSettings (.ofList entries)
  credentials := (Credentials.assemble (.listed entries)).run
  selector := .empty
  parameters := (Parameters.assemble (.listed entries) (.ofEnvironment .empty)).run

theorem Configuration.ofLayer_ofList (entries : List (Id × Value)) :
    ofLayer .empty (.ofSettings (.ofList entries)) = listed entries := by
  rw [listed, ← Reads.total_ofList]
  rfl

/-- Two values of one setting behind the same list make layers that agree outside of it. -/
theorem Layer.agreeOutside_ofList (entries : List (Id × Value)) (id : Id) (value other : Value) :
    (ofSettings (.ofList (entries ++ [(id, value)]))).AgreeOutside id
      (ofSettings (.ofList (entries ++ [(id, other)]))) where
  settings key hKey := by
    have hGet (value : Value) :
        (SortedMap.ofList (entries ++ [(id, value)]) : Assignment).get? key =
          (SortedMap.ofList entries : Assignment).get? key := by
      rw [SortedMap.ofList, SortedMap.insertAll, List.foldl_append]
      exact (SortedMap.get?_insert _ id key value).trans (if_neg hKey)
    exact (hGet value).trans (hGet other).symm
  credentials := rfl
  selector := rfl
  metrics := rfl

namespace Accessor

variable {accessor : Accessor}

/-- Every setting has a part in each of its dependents. -/
theorem not_agrees_altered {row : Descriptor × List Accessor} (hRow : row ∈ influences)
    (hAccessor : accessor ∈ row.2) :
    ¬ accessor.Agrees (.listed (accessor.revealing row.1 ++ [(row.1.id, row.1.default)]))
      (.listed (accessor.revealing row.1 ++ [(row.1.id, altered row.1.default)])) := by
  have hAll : ∀ row ∈ influences, ∀ accessor ∈ row.2,
      ¬ accessor.Agrees (.listed (accessor.revealing row.1 ++ [(row.1.id, row.1.default)]))
        (.listed (accessor.revealing row.1 ++ [(row.1.id, altered row.1.default)])) := by
    decide +kernel
  exact hAll row hRow accessor hAccessor

/-- The answers together show all that follows from a layer. -/
theorem agrees_all_iff {first second : Configuration} :
    (∀ accessor : Accessor, accessor.Agrees first second) ↔
      first.credentials = second.credentials ∧ first.selector = second.selector ∧
        first.parameters = second.parameters := by
  constructor
  · intro hAgree
    refine ⟨hAgree .credentials, hAgree .selector, ?_⟩
    have hBuffers := BufferSizes.ext (hAgree .maxBufferSize) (hAgree .bufferSize)
      (hAgree .readBufferSize) (hAgree .writeBufferSize) (hAgree .requestChunkSize)
    exact Parameters.ext (hAgree .isAsync) (hAgree .autoDiscovery) (hAgree .customSettings)
      (hAgree .clientName) (hAgree .requestCompression) (hAgree .responseCompression)
      (hAgree .connectionTimeout) (hAgree .database) (hAgree .format) hBuffers
      (hAgree .bufferQueueVariation) (hAgree .requestBuffering) (hAgree .responseBuffering)
      (hAgree .maxExecutionTime) (hAgree .maxQueuedBuffers) (hAgree .maxQueuedRequests)
      (hAgree .maxResultRows) (hAgree .maxThreads) (hAgree .nodeCheckInterval)
      (hAgree .failover) (hAgree .retry) (hAgree .repeatOnSessionLock)
      (hAgree .reuseValueWrapper) (hAgree .hasServerInfo) (hAgree .serverTimeZone)
      (hAgree .serverVersion) (hAgree .sessionTimeout) (hAgree .sessionCheck)
      (hAgree .socketTimeout) (hAgree .ssl) (hAgree .sslMode) (hAgree .sslRootCertificate)
      (hAgree .sslCertificate) (hAgree .sslKey) (hAgree .transactionTimeout)
      (hAgree .useBlockingQueue) (hAgree .useObjectsInArrays) (hAgree .useNoProxy)
      (hAgree .useServerTimeZone) (hAgree .useServerTimeZoneForDates) (hAgree .timeZone)
      (hAgree .dateZone)
  · rintro ⟨hCredentials, hSelector, hParameters⟩ accessor
    cases accessor <;> simp only [Agrees, hCredentials, hSelector, hParameters]

/-- An answer is the same for all layers that differ in one setting at most, whatever the
environment, exactly if it is not among the dependents of this setting. The answers together show
all that follows from a layer. -/
theorem agrees_iff_not_mem_dependents :
    (∀ (accessor : Accessor) (id : Id),
      (∀ (env : Environment) (first second : Layer), first.AgreeOutside id second →
        accessor.Agrees (.ofLayer env first) (.ofLayer env second)) ↔
      accessor ∉ dependents id) ∧
    ∀ first second : Configuration, (∀ accessor : Accessor, accessor.Agrees first second) ↔
      first.credentials = second.credentials ∧ first.selector = second.selector ∧
        first.parameters = second.parameters := by
  refine ⟨fun accessor id => ⟨fun hAgree hAccessor => ?_, fun hAccessor _ _ _ hOutside =>
    agrees_of_not_mem_dependents hOutside hAccessor⟩, fun _ _ => agrees_all_iff⟩
  obtain ⟨row, hRow, hAnswer, rfl⟩ := mem_dependents_iff.mp hAccessor
  have hSame := hAgree .empty _ _ (Layer.agreeOutside_ofList (accessor.revealing row.1) row.1.id
    row.1.default (altered row.1.default))
  rw [Configuration.ofLayer_ofList, Configuration.ofLayer_ofList] at hSame
  exact not_agrees_altered hRow hAnswer hSame

/-- What a client sends is compressed the same, however the server is told to compress. -/
theorem requestCompression_agrees_compress :
    (Layer.ofSettings (.ofList [(Builtin.compress.id, .flag true)])).AgreeOutside
      Builtin.compress.id (.ofSettings (.ofList [(Builtin.compress.id, .flag false)])) ∧
    requestCompression ∉ dependents Builtin.compress.id ∧
    requestCompression.Agrees
      (.ofLayer .empty (.ofSettings (.ofList [(Builtin.compress.id, .flag true)])))
      (.ofLayer .empty (.ofSettings (.ofList [(Builtin.compress.id, .flag false)]))) := by
  have hOutside := Layer.agreeOutside_ofList [] Builtin.compress.id (.flag true) (.flag false)
  have hNot : requestCompression ∉ dependents Builtin.compress.id := by decide +kernel
  exact ⟨hOutside, hNot,
    (agrees_iff_not_mem_dependents.1 _ _).mpr hNot .empty _ _ hOutside⟩

end Accessor

end DbClient
