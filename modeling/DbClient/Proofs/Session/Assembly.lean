import DbClient.Session.Configuration

/-! Reading the settings of a session by any means. Reads may have effects, such as failing, and a
session is assembled from what they give. Main statements: `assemble_total`, by which parameters
are assembled from reads that always give something, and `assemble_congr`, by which nothing is read
but `ownSettings` and `backedSettings`, each at its own type. -/

namespace DbClient

open Setting

/-- The built-in settings that are read with their own defaults. -/
def ownSettings : List Descriptor :=
  [Builtin.autoDiscovery, Builtin.customSettings, Builtin.clientName, Builtin.compress,
    Builtin.compressAlgorithm, Builtin.compressLevel, Builtin.decompress,
    Builtin.decompressAlgorithm, Builtin.decompressLevel, Builtin.connectionTimeout,
    Builtin.maxBufferSize, Builtin.bufferSize, Builtin.bufferQueueVariation,
    Builtin.readBufferSize, Builtin.writeBufferSize, Builtin.requestChunkSize,
    Builtin.maxExecutionTime, Builtin.maxQueuedBuffers, Builtin.maxQueuedRequests,
    Builtin.maxResultRows, Builtin.maxThreadsPerClient, Builtin.nodeCheckInterval,
    Builtin.failover, Builtin.retry, Builtin.repeatOnSessionLock, Builtin.reuseValueWrapper,
    Builtin.serverTimeZone, Builtin.serverVersion, Builtin.sessionTimeout, Builtin.sessionCheck,
    Builtin.socketTimeout, Builtin.ssl, Builtin.sslMode, Builtin.sslRootCertificate,
    Builtin.sslCertificate, Builtin.sslKey, Builtin.transactionTimeout, Builtin.useBlockingQueue,
    Builtin.useObjectsInArrays, Builtin.useNoProxy, Builtin.useServerTimeZone,
    Builtin.useServerTimeZoneForDates, Builtin.useTimeZone]

theorem ownSettings_subset : ownSettings ⊆ Builtin.all := by
  -- Both lists are in the order of declaration, so that they are walked through together.
  refine List.Sublist.subset ?_
  unfold ownSettings Builtin.all
  repeat first
    | exact .slnil
    | with_reducible apply List.Sublist.cons_cons
    | apply List.Sublist.cons

/-- The built-in settings that are read with the defaults of other settings, and these. -/
def backedSettings : List (Descriptor × Descriptor) :=
  [(Builtin.async, Fallback.async), (Builtin.database, Fallback.database),
    (Builtin.format, Fallback.format), (Builtin.requestBuffering, Fallback.buffering),
    (Builtin.responseBuffering, Fallback.buffering),
    (Builtin.serverTimeZone, Fallback.serverTimeZone),
    (Builtin.serverVersion, Fallback.serverVersion)]

/-- Ways to read a setting at a type, with its own default or with that of another setting. -/
structure Reads (m : Type → Type) where
  own : (type : ValueType) → Descriptor → m type.Carrier
  backed : (type : ValueType) → (setting fallback : Descriptor) → m type.Carrier

namespace Reads

/-- Reads that give blank elements for values of other types. -/
def total (env : Environment) (settings : Assignment) : Reads Id where
  own type setting := Parameters.read type env settings setting
  backed type setting fallback := Parameters.readOr type env settings setting fallback

/-- Reads that give nothing for values of other types. -/
def strict (env : Environment) (settings : Assignment) : Reads Option where
  own type setting := (settings.value env setting).as? type
  backed type setting fallback := (settings.valueOr env setting fallback).as? type

variable {m : Type → Type} [Monad m]

/-- Reads that give what other reads give, without any effect. -/
def lift (reads : Reads Id) : Reads m where
  own type setting := pure (reads.own type setting)
  backed type setting fallback := pure (reads.backed type setting fallback)

end Reads

variable {m : Type → Type} [Monad m]

/-- The parameters of a session from what reads give, in a process with this zone. -/
def Parameters.assemble (reads : Reads m) (processZone : Zone) : m Parameters := do
  let useServerTimeZone ← reads.own .flag Builtin.useServerTimeZone
  let serverTimeZone := (Zone.parse?
    (← reads.backed .text Builtin.serverTimeZone Fallback.serverTimeZone)).getD .utc
  let useForDates ← reads.own .flag Builtin.useServerTimeZoneForDates
  let configuredZone ← reads.own .text Builtin.useTimeZone
  let timeZone := if useServerTimeZone then serverTimeZone
    else (Zone.parse? configuredZone).getD processZone
  let sessionTimeout ← reads.own .int Builtin.sessionTimeout
  return {
    isAsync := ← reads.backed .flag Builtin.async Fallback.async
    autoDiscovery := ← reads.own .flag Builtin.autoDiscovery
    customSettings := PairText.parse (← reads.own .text Builtin.customSettings)
    clientName := ← reads.own .text Builtin.clientName
    requestCompression :=
      ⟨← reads.own .flag Builtin.decompress,
        ← reads.own .compression Builtin.decompressAlgorithm,
        ← reads.own .int Builtin.decompressLevel⟩
    responseCompression :=
      ⟨← reads.own .flag Builtin.compress, ← reads.own .compression Builtin.compressAlgorithm,
        ← reads.own .int Builtin.compressLevel⟩
    connectionTimeout := ← reads.own .int Builtin.connectionTimeout
    database := ← reads.backed .text Builtin.database Fallback.database
    format := ← reads.backed .format Builtin.format Fallback.format
    buffers := .resolve
      ⟨← reads.own .int Builtin.maxBufferSize, ← reads.own .int Builtin.bufferSize,
        ← reads.own .int Builtin.readBufferSize, ← reads.own .int Builtin.writeBufferSize,
        ← reads.own .int Builtin.requestChunkSize⟩
    bufferQueueVariation := ← reads.own .int Builtin.bufferQueueVariation
    requestBuffering := ← reads.backed .buffering Builtin.requestBuffering Fallback.buffering
    responseBuffering := ← reads.backed .buffering Builtin.responseBuffering Fallback.buffering
    maxExecutionTime := ← reads.own .int Builtin.maxExecutionTime
    maxQueuedBuffers := ← reads.own .int Builtin.maxQueuedBuffers
    maxQueuedRequests := ← reads.own .int Builtin.maxQueuedRequests
    maxResultRows := ← reads.own .long Builtin.maxResultRows
    maxThreads := ← reads.own .int Builtin.maxThreadsPerClient
    nodeCheckInterval := ← reads.own .int Builtin.nodeCheckInterval
    failover := ← reads.own .int Builtin.failover
    retry := ← reads.own .int Builtin.retry
    repeatOnSessionLock := ← reads.own .flag Builtin.repeatOnSessionLock
    reuseValueWrapper := ← reads.own .flag Builtin.reuseValueWrapper
    hasServerInfo :=
      !Text.isBlankText (← reads.own .text Builtin.serverTimeZone) &&
        !Text.isBlankText (← reads.own .text Builtin.serverVersion)
    serverTimeZone
    serverVersion :=
      .parse (← reads.backed .text Builtin.serverVersion Fallback.serverVersion)
    sessionTimeout
    sessionCheck := ← reads.own .flag Builtin.sessionCheck
    socketTimeout := ← reads.own .int Builtin.socketTimeout
    ssl := ← reads.own .flag Builtin.ssl
    sslMode := ← reads.own .sslMode Builtin.sslMode
    sslRootCertificate := ← reads.own .text Builtin.sslRootCertificate
    sslCertificate := ← reads.own .text Builtin.sslCertificate
    sslKey := ← reads.own .text Builtin.sslKey
    transactionTimeout :=
      DbClient.transactionTimeout (← reads.own .int Builtin.transactionTimeout) sessionTimeout
    useBlockingQueue := ← reads.own .flag Builtin.useBlockingQueue
    useObjectsInArrays := ← reads.own .flag Builtin.useObjectsInArrays
    useNoProxy := ← reads.own .flag Builtin.useNoProxy
    useServerTimeZone
    useServerTimeZoneForDates := useForDates
    timeZone
    dateZone? := DbClient.dateZone? useForDates timeZone }

/-- The credentials of a session from what reads give. -/
def Credentials.assemble (reads : Reads m) : m Credentials :=
  return ⟨← reads.own .text Fallback.user, ← reads.own .text Fallback.password⟩

namespace Parameters

/-- Read from an assignment directly, the parameters are the ones that are derived from it. -/
theorem assemble_total (env : Environment) (settings : Assignment) :
    (assemble (.total env settings) (.ofEnvironment env)).run = derive env settings :=
  rfl

theorem assemble_lift [LawfulMonad m] (reads : Reads Id) (zone : Zone) :
    assemble (.lift reads : Reads m) zone = pure (assemble reads zone).run := by
  simp only [assemble, Reads.lift, pure_bind]
  rfl

/-- Reads that agree on the settings of a session at their own types give the same parameters. -/
theorem assemble_congr {first second : Reads m}
    (hOwn : ∀ setting ∈ ownSettings,
      first.own setting.type setting = second.own setting.type setting)
    (hBacked : ∀ pair ∈ backedSettings,
      first.backed pair.1.type pair.1 pair.2 = second.backed pair.1.type pair.1 pair.2)
    (zone : Zone) : assemble first zone = assemble second zone := by
  have hOwnAt : ∀ setting ∈ ownSettings, ∀ type, setting.type = type →
      first.own type setting = second.own type setting := by
    rintro setting hSetting type rfl
    exact hOwn setting hSetting
  have hBackedAt : ∀ pair ∈ backedSettings, ∀ type, pair.1.type = type →
      first.backed type pair.1 pair.2 = second.backed type pair.1 pair.2 := by
    rintro pair hPair type rfl
    exact hBacked pair hPair
  simp only [ownSettings, backedSettings, List.forall_mem_cons] at hOwnAt hBackedAt
  simp (disch := decide) only [assemble, hOwnAt, hBackedAt]

/-- Parameters depend on nothing but the values of the settings of a session and the zone of the
process. -/
theorem derive_congr {firstEnv secondEnv : Environment} {first second : Assignment}
    (hOwn : ∀ setting ∈ ownSettings, first.value firstEnv setting = second.value secondEnv setting)
    (hBacked : ∀ pair ∈ backedSettings,
      first.valueOr firstEnv pair.1 pair.2 = second.valueOr secondEnv pair.1 pair.2)
    (hZone : Zone.ofEnvironment firstEnv = Zone.ofEnvironment secondEnv) :
    derive firstEnv first = derive secondEnv second := by
  rw [← assemble_total, ← assemble_total, hZone]
  refine congrArg Id.run (assemble_congr (fun setting hSetting => ?_) (fun pair hPair => ?_) _)
  · simp only [Reads.total, read, hOwn setting hSetting]
  · simp only [Reads.total, readOr, hBacked pair hPair]

end Parameters

namespace Configuration

/-- Read from an assignment directly, the credentials are the ones of its settings. -/
theorem assemble_total (env : Environment) (settings : Assignment) :
    (Credentials.assemble (.total env settings)).run = settingCredentials env settings :=
  rfl

theorem settingCredentials_congr {firstEnv secondEnv : Environment} {first second : Assignment}
    (hOwn : ∀ setting ∈ Fallback.properties,
      first.value firstEnv setting = second.value secondEnv setting) :
    settingCredentials firstEnv first = settingCredentials secondEnv second := by
  simp only [settingCredentials, Parameters.read, hOwn Fallback.user (by decide),
    hOwn Fallback.password (by decide)]

/-- What follows from a layer depends on nothing but its credentials, the values of the settings of
a session and the zone of the process. -/
theorem ofLayer_congr {firstEnv secondEnv : Environment} {first second : Layer}
    (hCredentials : first.credentials? = second.credentials?)
    (hOwn : ∀ setting ∈ ownSettings ++ Fallback.properties,
      first.settings.value firstEnv setting = second.settings.value secondEnv setting)
    (hBacked : ∀ pair ∈ backedSettings,
      first.settings.valueOr firstEnv pair.1 pair.2 = second.settings.valueOr secondEnv pair.1 pair.2)
    (hZone : Zone.ofEnvironment firstEnv = Zone.ofEnvironment secondEnv) :
    (ofLayer firstEnv first).parameters = (ofLayer secondEnv second).parameters ∧
      (ofLayer firstEnv first).credentials = (ofLayer secondEnv second).credentials := by
  rw [List.forall_mem_append] at hOwn
  refine ⟨Parameters.derive_congr hOwn.1 hBacked hZone, ?_⟩
  rw [ofLayer, ofLayer, hCredentials, settingCredentials_congr hOwn.2]

end Configuration

end DbClient
