import DbClient.Node.Selector
import DbClient.Session.Parameters

/-! Documents that show settings, zones, versions, selectors and the parameters of a session, for
tools that inspect one. Numbers of more than thirty-two bits are shown as text. -/

namespace DbClient

open Json

/-- The type and the text of a value. -/
def Setting.Value.report (value : Value) : Json :=
  ofMembers [("type", string (Enumerated.name value.type)), ("text", string value.toText)]

def Setting.Id.toText (id : Id) : String :=
  id.scope ++ ":" ++ id.key

/-- The identity, the type and the text of every entry. -/
def Setting.Assignment.report (assignment : Assignment) : Json :=
  array <| assignment.entries.map fun entry =>
    array [string entry.1.toText, string (Enumerated.name entry.2.type), string entry.2.toText]

/-- Pairs in order of their keys. -/
def Setting.PairMap.report (pairs : PairMap) : Json :=
  array (pairs.entries.map fun pair => array [string pair.1, string pair.2])

/-- The kind of a zone, its text, and its offset if that is fixed. -/
def Zone.report (zone : Zone) : Json :=
  let kind := if zone.offset?.isSome then "fixed" else "named"
  let seconds := match zone.offset? with
    | some offset => integer offset
    | none => null
  ofMembers [("kind", string kind), ("id", string zone.id), ("display", string zone.id),
    ("seconds", seconds)]

/-- The text of a version and its parts. -/
def Version.report (version : Version) : List (String × Json) :=
  [("text", string version.toText), ("latest", bool version.isLatest),
    ("parts", array (version.release.toList.map fun part => integer part.toNat))]

def NodeSelector.report (selector : NodeSelector) : List (String × Json) :=
  [("protocols", array (selector.protocols.map fun protocol => string (Enumerated.name protocol))),
    ("tags", array (selector.tags.keys.map string)),
    ("empty", bool selector.isEmpty)]

def CompressionChoice.report (choice : CompressionChoice) : List (String × Json) :=
  [("enabled", bool choice.enabled), ("algorithm", string (Enumerated.name choice.algorithm)),
    ("level", integer choice.level.toInt)]

/-- The parameters of a session by name. -/
def Parameters.report (parameters : Parameters) : Json :=
  let int (n : Int32) := integer n.toInt
  let compression (choice : CompressionChoice) := array (choice.report.map Prod.snd)
  let dateZone := match parameters.dateZone? with
    | some zone => zone.report
    | none => null
  ofMembers [
    ("async", bool parameters.isAsync),
    ("auto_discovery", bool parameters.autoDiscovery),
    ("buffer_queue_variation", int parameters.bufferQueueVariation),
    ("buffer_size", int parameters.buffers.buffer),
    ("client_name", string parameters.clientName),
    ("connection_timeout", int parameters.connectionTimeout),
    ("custom_settings", Setting.PairMap.report parameters.customSettings),
    ("database", string parameters.database),
    ("failover", int parameters.failover),
    ("format", string (Enumerated.name parameters.format)),
    ("max_buffer_size", int parameters.buffers.maximum),
    ("max_execution_time", int parameters.maxExecutionTime),
    ("max_queued_buffers", int parameters.maxQueuedBuffers),
    ("max_queued_requests", int parameters.maxQueuedRequests),
    ("max_result_rows", string (.ofList (Number.intText parameters.maxResultRows.toInt))),
    ("max_threads_per_client", int parameters.maxThreads),
    ("node_check_interval", int parameters.nodeCheckInterval),
    ("read_buffer_size", int parameters.buffers.read),
    ("repeat_on_session_lock", bool parameters.repeatOnSessionLock),
    ("request_buffering", string (Enumerated.name parameters.requestBuffering)),
    ("request_chunk_size", int parameters.buffers.requestChunk),
    ("request_compression", compression parameters.requestCompression),
    ("response_buffering", string (Enumerated.name parameters.responseBuffering)),
    ("response_compression", compression parameters.responseCompression),
    ("retry", int parameters.retry),
    ("reuse_value_wrapper", bool parameters.reuseValueWrapper),
    ("same_settings", bool (parameters.requestCompression = parameters.responseCompression)),
    ("server_info", bool parameters.hasServerInfo),
    ("server_time_zone", parameters.serverTimeZone.report),
    ("server_version", ofMembers parameters.serverVersion.report),
    ("session_check", bool parameters.sessionCheck),
    ("session_timeout", int parameters.sessionTimeout),
    ("socket_timeout", int parameters.socketTimeout),
    ("ssl", bool parameters.ssl),
    ("ssl_cert", string parameters.sslCertificate),
    ("ssl_key", string parameters.sslKey),
    ("ssl_mode", string (Enumerated.name parameters.sslMode)),
    ("ssl_root_cert", string parameters.sslRootCertificate),
    ("time_zone_for_date", dateZone),
    ("transaction_timeout", int parameters.transactionTimeout),
    ("use_blocking_queue", bool parameters.useBlockingQueue),
    ("use_no_proxy", bool parameters.useNoProxy),
    ("use_objects_in_arrays", bool parameters.useObjectsInArrays),
    ("use_server_time_zone", bool parameters.useServerTimeZone),
    ("use_server_time_zone_for_dates", bool parameters.useServerTimeZoneForDates),
    ("use_time_zone", parameters.timeZone.report),
    ("write_buffer_size", int parameters.buffers.write)]

end DbClient
