import ServerTelemetry.Configuration.Error
import ServerTelemetry.Http.Uri

/-!
# Where spans are sent

The place of a collector is an absolute URL; each protocol has one of its own on this machine for
when none is given. Over HTTP spans are posted to a path, which is added to the URL unless its path
ends so already; slashes at the end of the path give way to it, the query stays.

What is sent is compressed over gRPC if the environment asks for it, which no build can do.
-/

namespace ServerTelemetry

open Http

/-- A collector of spans. -/
structure Collector where
  /-- The protocol spans are sent with. -/
  protocol : Protocol
  url : Uri
  timeout : Duration
  deriving DecidableEq, Repr

namespace Collector

/-- The place of the collector on this machine. -/
def localPlace : Protocol → Text
  | .grpc => "http://127.0.0.1:4317".toList
  | .http => "http://127.0.0.1:4318".toList

/-- The path spans are posted to. -/
def tracesPath : Text :=
  "/v1/traces".toList

/-- What is wrong with a URL that is not absolute. -/
def notAbsolute : Text :=
  "expected an absolute URL such as http://host:port".toList

/-- An absolute URL. -/
def readUrl (place : Text) : Except ConfigurationError Uri :=
  match Uri.read place with
  | .error error => .error (.endpoint place error.message)
  | .ok (.absolute scheme authority path query) => .ok (.absolute scheme authority path query)
  | .ok _ => .error (.endpoint place notAbsolute)

/-- The URL with its path completed. The new path is read with the query, and the parts are put
together again; either may fail. -/
def complete (url : Uri) : Except ConfigurationError Uri :=
  if tracesPath.isSuffixOf url.path then .ok url
  else do
    let path := Text.dropWhileEnd (· == '/') url.path ++ tracesPath
    let target ← (Uri.readTarget (path ++ Uri.writeQuery url.query?)).mapError
      fun error => .endpoint url.write error.message
    (Uri.ofParts { url.parts with target := some target }).mapError
      fun error => .endpoint url.write error.message

/-- The collector that settings describe. -/
def ofSettings (o : OtlpSettings) : Except ConfigurationError Collector := do
  let url ← readUrl (o.endpoint.getD (localPlace o.protocol))
  let url ← match o.protocol with
    | .grpc => .ok url
    | .http => complete url
  return { protocol := o.protocol, url := url, timeout := o.timeout }

/-! ## Exporters -/

/-- The variables that ask for a method of compressing. The first one that is set counts. -/
def compressionVariables : List Text :=
  ["OTEL_EXPORTER_OTLP_TRACES_COMPRESSION".toList, "OTEL_EXPORTER_OTLP_COMPRESSION".toList]

/-- What is wrong with a method of compressing. -/
def compressionError (method : Text) : BuildError :=
  match [Compression.gzip, Compression.zstd].find? (·.name == method) with
  | some method => .unavailable method
  | none => .unknown method

/-- What is wrong with a URL that has become too long, in the words of a protocol. -/
def urlError (protocol : Protocol) (url : Text) (error : UriError) : BuildError :=
  match protocol with
  | .grpc => .url url "invalid URI".toList
  | .http => .url url error.message

/-- Why the exporter that sends spans to the collector cannot be built, in a process with some
variables. -/
def buildError? (vars : Text → Option Text) (c : Collector) : Option BuildError :=
  let method := if c.protocol = .grpc then compressionVariables.findSome? vars else none
  match method, Uri.read c.url.write with
  | some method, _ => some (compressionError method)
  | none, .error error => some (urlError c.protocol c.url.write error)
  | none, .ok _ => none

end Collector

end ServerTelemetry
