import ServerTelemetry.Text.Blank

/-!
# Attributes

An attribute is a key of the semantic conventions with a value. Keys are a closed set, apart from
the captured headers, whose keys carry the header's name. `Key.name` is the key as telemetry shows
it.
-/

namespace ServerTelemetry

/-- The keys an HTTP server span can carry. -/
inductive AttributeKey where
  /-- The method, or a stand-in for methods that are not known. -/
  | requestMethod
  /-- The method as received, where `requestMethod` has the stand-in. -/
  | requestMethodOriginal
  /-- The path of the request target. -/
  | urlPath
  /-- The query of the request target. -/
  | urlQuery
  | urlScheme
  | userAgent
  | route
  /-- The address of the client behind all proxies. -/
  | clientAddress
  /-- The name the client addressed. -/
  | serverAddress
  /-- The port the client addressed, unless it is the scheme's own. -/
  | serverPort
  /-- The address of the direct peer. -/
  | peerAddress
  | peerPort
  /-- The protocol, where it is not HTTP. -/
  | protocolName
  | protocolVersion
  | responseStatus
  | errorType
  /-- The values of a captured request header. -/
  | requestHeader (name : Text)
  /-- The values of a captured response header. -/
  | responseHeader (name : Text)
  deriving DecidableEq, Repr

/-- The key as telemetry shows it. -/
def AttributeKey.name : AttributeKey → Text
  | .requestMethod => "http.request.method".toList
  | .requestMethodOriginal => "http.request.method_original".toList
  | .urlPath => "url.path".toList
  | .urlQuery => "url.query".toList
  | .urlScheme => "url.scheme".toList
  | .userAgent => "user_agent.original".toList
  | .route => "http.route".toList
  | .clientAddress => "client.address".toList
  | .serverAddress => "server.address".toList
  | .serverPort => "server.port".toList
  | .peerAddress => "network.peer.address".toList
  | .peerPort => "network.peer.port".toList
  | .protocolName => "network.protocol.name".toList
  | .protocolVersion => "network.protocol.version".toList
  | .responseStatus => "http.response.status_code".toList
  | .errorType => "error.type".toList
  | .requestHeader name => "http.request.header.".toList ++ name
  | .responseHeader name => "http.response.header.".toList ++ name

/-- The value of an attribute. -/
inductive AttributeValue where
  | text (value : Text)
  | number (value : Nat)
  | texts (values : List Text)
  deriving DecidableEq, Repr

/-- A key with its value. -/
structure Attribute where
  key : AttributeKey
  value : AttributeValue
  deriving DecidableEq, Repr

namespace Attribute

/-- The attribute, unless the text is absent. -/
def text? (key : AttributeKey) (value : Option Text) : List Attribute :=
  (value.map fun text => ⟨key, .text text⟩).toList

/-- The attribute, unless the text is empty. -/
def filled (key : AttributeKey) (value : Text) : List Attribute :=
  text? key (Text.nonEmpty? value)

/-- The attribute, unless the number is absent. -/
def number? (key : AttributeKey) (value : Option Nat) : List Attribute :=
  (value.map fun n => ⟨key, .number n⟩).toList

/-- The attribute, unless there are no values. -/
def texts (key : AttributeKey) (values : List Text) : List Attribute :=
  if values.isEmpty then [] else [⟨key, .texts values⟩]

end Attribute

end ServerTelemetry
