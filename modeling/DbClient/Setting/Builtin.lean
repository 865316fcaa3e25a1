import DbClient.Setting.Descriptor

/-! The settings that every client understands. -/

namespace DbClient.Setting.Builtin

/-- A setting in the scope of the built-in ones. -/
def client (key : String) (default : Value) (description : String) : Descriptor :=
  ⟨"client", key, default, description⟩

def async : Descriptor := client "async" (.flag true)
  "Whether the client should run in async mode."

def autoDiscovery : Descriptor := client "auto_discovery" (.flag false)
  "Whether the client should discover more nodes from system tables and/or clickhouse-keeper."

def customSettings : Descriptor := client "custom_settings" (.text "")
  "Comma separated key-value pairs of custom server settings."

def clientName : Descriptor := client "client_name" (.text "ClickHouse Rust Client")
  "Client name reported to the server."

def compress : Descriptor := client "compress" (.flag true)
  "Whether the server will compress response it sends to the client."

def compressAlgorithm : Descriptor := client "compress_algorithm" (.compression .lz4)
  "Algorithm used by the server to compress response."

def compressLevel : Descriptor := client "compress_level" (.int (-1))
  "Compression level for response, -1 standing for the algorithm's default."

def decompress : Descriptor := client "decompress" (.flag false)
  "Whether the server should decompress the request the client sends."

def decompressAlgorithm : Descriptor := client "decompress_algorithm" (.compression .lz4)
  "Algorithm for the server to decompress the request."

def decompressLevel : Descriptor := client "decompress_level" (.int (-1))
  "Compression level for request, -1 standing for the algorithm's default."

def connectionTimeout : Descriptor := client "connect_timeout" (.int 5000)
  "Connection timeout in milliseconds."

def database : Descriptor := client "database" (.text "")
  "Default database."

def format : Descriptor := client "format" (.format .tabSeparated)
  "Default format."

def maxBufferSize : Descriptor := client "max_buffer_size" (.int 131072)
  "Maximum buffer size in bytes which can be used for streaming."

def bufferSize : Descriptor := client "buffer_size" (.int 4096)
  "Default buffer size in bytes for both request and response."

def bufferQueueVariation : Descriptor := client "buffer_queue_variation" (.int 100)
  ("How many times the buffer queue is filled up before increasing its capacity; " ++
    "zero or negative means fixed.")

def readBufferSize : Descriptor := client "read_buffer_size" (.int 0)
  "Read buffer size in bytes; zero or negative falls back to buffer_size."

def writeBufferSize : Descriptor := client "write_buffer_size" (.int 0)
  "Write buffer size in bytes; zero or negative falls back to buffer_size."

def requestChunkSize : Descriptor := client "request_chunk_size" (.int 0)
  "Request chunk size in bytes; zero or negative falls back to write_buffer_size."

def requestBuffering : Descriptor := client "request_buffering" (.buffering .resourceEfficient)
  "Request buffering mode."

def responseBuffering : Descriptor := client "response_buffering" (.buffering .resourceEfficient)
  "Response buffering mode."

def maxExecutionTime : Descriptor := client "max_execution_time" (.int 0)
  "Maximum query execution time in seconds, zero for unlimited."

def maxQueuedBuffers : Descriptor := client "max_queued_buffers" (.int 512)
  "Maximum number of buffers queued for reading or writing, zero for unlimited."

def maxQueuedRequests : Descriptor := client "max_queued_requests" (.int 0)
  "Maximum number of requests queued, zero for unlimited."

def maxResultRows : Descriptor := client "max_result_rows" (.long 0)
  "Limit of rows to return, zero for unlimited."

def maxThreadsPerClient : Descriptor := client "max_threads_per_client" (.int 0)
  "Size of the thread pool for each client, zero or negative for the shared pool."

def nodeCheckInterval : Descriptor := client "node_check_interval" (.int 0)
  "Interval in milliseconds between node health checks, zero to disable."

def failover : Descriptor := client "failover" (.int 0)
  "Maximum number of times failover can happen for a request, zero to disable."

def retry : Descriptor := client "retry" (.int 0)
  "Maximum number of times retry can happen for a request, zero to disable."

def repeatOnSessionLock : Descriptor := client "repeat_on_session_lock" (.flag true)
  "Whether to repeat a request when its session is locked, until timed out."

def reuseValueWrapper : Descriptor := client "reuse_value_wrapper" (.flag true)
  "Whether to reuse value containers while decoding rows."

def serverTimeZone : Descriptor := client "server_time_zone" (.text "")
  "Server time zone, empty until reported by the server."

def serverVersion : Descriptor := client "server_version" (.text "")
  "Server version, empty until reported by the server."

def sessionTimeout : Descriptor := client "session_timeout" (.int 0)
  "Session timeout in seconds, zero for the server default."

def sessionCheck : Descriptor := client "session_check" (.flag false)
  "Whether to check that the session exists before using it."

def socketTimeout : Descriptor := client "socket_timeout" (.int 30000)
  "Socket timeout in milliseconds."

def ssl : Descriptor := client "ssl" (.flag false)
  "Whether to use SSL/TLS for the connection."

def sslMode : Descriptor := client "sslmode" (.sslMode .strict)
  "SSL mode, STRICT to verify the server certificate."

def sslRootCertificate : Descriptor := client "sslrootcert" (.text "")
  "SSL/TLS root certificate."

def sslCertificate : Descriptor := client "sslcert" (.text "")
  "SSL/TLS certificate."

def sslKey : Descriptor := client "sslkey" (.text "")
  "RSA key in PKCS#8 format."

def transactionTimeout : Descriptor := client "transaction_timeout" (.int 0)
  "Transaction timeout in seconds; less than one falls back to session_timeout."

def useBlockingQueue : Descriptor := client "use_blocking_queue" (.flag false)
  "Whether to use a blocking queue for buffering."

def useObjectsInArrays : Descriptor := client "use_objects_in_arrays" (.flag false)
  "Whether arrays of primitives are decoded as arrays of objects."

def useNoProxy : Descriptor := client "use_no_proxy" (.flag false)
  "Whether to bypass any configured proxy."

def useServerTimeZone : Descriptor := client "use_server_time_zone" (.flag true)
  "Whether to use the server time zone; takes precedence over use_time_zone."

def useServerTimeZoneForDates : Descriptor := client "use_server_time_zone_for_dates" (.flag false)
  "Whether date-only values adopt the working time zone instead of staying zone-naive."

def useTimeZone : Descriptor := client "use_time_zone" (.text "")
  "Time zone for reading and writing temporal values; blank means the process default."

/-- The built-in settings in declaration order. -/
def all : List Descriptor :=
  [async, autoDiscovery, customSettings, clientName, compress, compressAlgorithm, compressLevel,
    decompress, decompressAlgorithm, decompressLevel, connectionTimeout, database, format,
    maxBufferSize, bufferSize, bufferQueueVariation, readBufferSize, writeBufferSize,
    requestChunkSize, requestBuffering, responseBuffering, maxExecutionTime, maxQueuedBuffers,
    maxQueuedRequests, maxResultRows, maxThreadsPerClient, nodeCheckInterval, failover, retry,
    repeatOnSessionLock, reuseValueWrapper, serverTimeZone, serverVersion, sessionTimeout,
    sessionCheck, socketTimeout, ssl, sslMode, sslRootCertificate, sslCertificate, sslKey,
    transactionTimeout, useBlockingQueue, useObjectsInArrays, useNoProxy, useServerTimeZone,
    useServerTimeZoneForDates, useTimeZone]

def find? (key : String) : Option Descriptor :=
  all.find? fun setting => setting.key = key

end DbClient.Setting.Builtin
