import DbClient.Session.BufferSizes
import DbClient.Setting.Assignment
import DbClient.Setting.Builtin
import DbClient.Setting.Fallback
import DbClient.Setting.PairText
import DbClient.Version
import DbClient.Zone

/-! The parameters of a session: everything that it reads while it runs, worked out once from
the settings and the environment. -/

namespace DbClient

/-- Whether and how one direction of the traffic is compressed, as configured. -/
structure CompressionChoice where
  enabled : Bool
  configuredAlgorithm : Compression
  configuredLevel : Int32
  deriving DecidableEq, Repr

namespace CompressionChoice

def algorithm (choice : CompressionChoice) : Compression :=
  if choice.enabled then choice.configuredAlgorithm else .none

def level (choice : CompressionChoice) : Int32 :=
  if choice.enabled then choice.configuredLevel else 0

end CompressionChoice

/-- The zone of times: that of the server if it is to be used, else the configured one, else
that of the process. -/
def workingZone (env : Environment) (useServerZone : Bool) (server : Zone) (configured : String) :
    Zone :=
  if useServerZone then server else (Zone.parse? configured).getD (.ofEnvironment env)

/-- The zone of dates; dates without one are the same day everywhere. -/
def dateZone? (useZoneForDates : Bool) (working : Zone) : Option Zone :=
  if useZoneForDates then some working else none

/-- A timeout of transactions, which falls back to that of the session if it is below one. -/
def transactionTimeout (configured session : Int32) : Int32 :=
  if configured < 1 then session else configured

/-- What a session reads while it runs. -/
structure Parameters where
  isAsync : Bool
  autoDiscovery : Bool
  customSettings : Setting.PairMap
  clientName : String
  requestCompression : CompressionChoice
  responseCompression : CompressionChoice
  connectionTimeout : Int32
  database : String
  format : DataFormat
  buffers : BufferSizes
  bufferQueueVariation : Int32
  requestBuffering : BufferingMode
  responseBuffering : BufferingMode
  maxExecutionTime : Int32
  maxQueuedBuffers : Int32
  maxQueuedRequests : Int32
  maxResultRows : Int64
  maxThreads : Int32
  nodeCheckInterval : Int32
  failover : Int32
  retry : Int32
  repeatOnSessionLock : Bool
  reuseValueWrapper : Bool
  hasServerInfo : Bool
  serverTimeZone : Zone
  serverVersion : Version
  sessionTimeout : Int32
  sessionCheck : Bool
  socketTimeout : Int32
  ssl : Bool
  sslMode : SslMode
  sslRootCertificate : String
  sslCertificate : String
  sslKey : String
  transactionTimeout : Int32
  useBlockingQueue : Bool
  useObjectsInArrays : Bool
  useNoProxy : Bool
  useServerTimeZone : Bool
  useServerTimeZoneForDates : Bool
  timeZone : Zone
  dateZone? : Option Zone
  deriving DecidableEq

namespace Parameters

open Setting

/-- A setting at a type; the value of another type reads as blank. -/
def read (type : ValueType) (env : Environment) (settings : Assignment) (setting : Descriptor) :
    type.Carrier :=
  ((settings.value env setting).as? type).getD type.blank

/-- A setting at a type, with the default of another setting if it is not set. -/
def readOr (type : ValueType) (env : Environment) (settings : Assignment)
    (setting fallback : Descriptor) : type.Carrier :=
  ((settings.valueOr env setting fallback).as? type).getD type.blank

/-- The zone that the server is known or assumed to be in. -/
def serverZone (env : Environment) (settings : Assignment) : Zone :=
  (Zone.parse? (readOr .text env settings Builtin.serverTimeZone Fallback.serverTimeZone)).getD
    .utc

/-- The parameters of a session. What a client sends is compressed as the server is told to
decompress it, and the other way round. -/
def derive (env : Environment) (settings : Assignment) : Parameters :=
  let flag := read .flag env settings
  let int := read .int env settings
  let text := read .text env settings
  let compression := read .compression env settings
  let useServerTimeZone := flag Builtin.useServerTimeZone
  let serverTimeZone := serverZone env settings
  let useForDates := flag Builtin.useServerTimeZoneForDates
  let timeZone := workingZone env useServerTimeZone serverTimeZone (text Builtin.useTimeZone)
  let sessionTimeout := int Builtin.sessionTimeout
  { isAsync := readOr .flag env settings Builtin.async Fallback.async
    autoDiscovery := flag Builtin.autoDiscovery
    customSettings := PairText.parse (text Builtin.customSettings)
    clientName := text Builtin.clientName
    requestCompression :=
      ⟨flag Builtin.decompress, compression Builtin.decompressAlgorithm,
        int Builtin.decompressLevel⟩
    responseCompression :=
      ⟨flag Builtin.compress, compression Builtin.compressAlgorithm, int Builtin.compressLevel⟩
    connectionTimeout := int Builtin.connectionTimeout
    database := readOr .text env settings Builtin.database Fallback.database
    format := readOr .format env settings Builtin.format Fallback.format
    buffers := .resolve
      ⟨int Builtin.maxBufferSize, int Builtin.bufferSize, int Builtin.readBufferSize,
        int Builtin.writeBufferSize, int Builtin.requestChunkSize⟩
    bufferQueueVariation := int Builtin.bufferQueueVariation
    requestBuffering :=
      readOr .buffering env settings Builtin.requestBuffering Fallback.buffering
    responseBuffering :=
      readOr .buffering env settings Builtin.responseBuffering Fallback.buffering
    maxExecutionTime := int Builtin.maxExecutionTime
    maxQueuedBuffers := int Builtin.maxQueuedBuffers
    maxQueuedRequests := int Builtin.maxQueuedRequests
    maxResultRows := read .long env settings Builtin.maxResultRows
    maxThreads := int Builtin.maxThreadsPerClient
    nodeCheckInterval := int Builtin.nodeCheckInterval
    failover := int Builtin.failover
    retry := int Builtin.retry
    repeatOnSessionLock := flag Builtin.repeatOnSessionLock
    reuseValueWrapper := flag Builtin.reuseValueWrapper
    hasServerInfo :=
      !Text.isBlankText (text Builtin.serverTimeZone) &&
        !Text.isBlankText (text Builtin.serverVersion)
    serverTimeZone
    serverVersion :=
      .parse (readOr .text env settings Builtin.serverVersion Fallback.serverVersion)
    sessionTimeout
    sessionCheck := flag Builtin.sessionCheck
    socketTimeout := int Builtin.socketTimeout
    ssl := flag Builtin.ssl
    sslMode := read .sslMode env settings Builtin.sslMode
    sslRootCertificate := text Builtin.sslRootCertificate
    sslCertificate := text Builtin.sslCertificate
    sslKey := text Builtin.sslKey
    transactionTimeout :=
      DbClient.transactionTimeout (int Builtin.transactionTimeout) sessionTimeout
    useBlockingQueue := flag Builtin.useBlockingQueue
    useObjectsInArrays := flag Builtin.useObjectsInArrays
    useNoProxy := flag Builtin.useNoProxy
    useServerTimeZone
    useServerTimeZoneForDates := useForDates
    timeZone
    dateZone? := DbClient.dateZone? useForDates timeZone }

end Parameters

end DbClient
