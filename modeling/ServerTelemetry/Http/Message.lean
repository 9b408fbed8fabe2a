import ServerTelemetry.Http.Header
import ServerTelemetry.Http.Uri
import ServerTelemetry.Net.Address
import ServerTelemetry.Route.Basic

/-!
# Requests and responses

A request carries, beside its own parts, what the server knows about it: the connection it arrived
on and the holder of its route. The parts are checked when a message is built, in the order they
are given; the first fault is the one reported.
-/

namespace ServerTelemetry.Http

open Text

/-- Why a message cannot be built. -/
inductive MessageError where
  | method
  /-- The request target is malformed. -/
  | uri (error : UriError)
  | headerName
  /-- A header value has control characters. -/
  | headerValue
  /-- The status code does not have three digits. -/
  | status
  deriving DecidableEq, Repr

/-- The wording of the error. -/
def MessageError.message : MessageError → Text
  | .method => "invalid HTTP method".toList
  | .uri error => error.message
  | .headerName => "invalid HTTP header name".toList
  | .headerValue => "failed to parse header value".toList
  | .status => "invalid status code".toList

/-- A version of HTTP. -/
inductive Version where
  | v09
  | v10
  | v11
  | v2
  | v3
  deriving DecidableEq, Repr

/-- The version as attributes show it. -/
def Version.write : Version → Text
  | .v09 => "0.9".toList
  | .v10 => "1.0".toList
  | .v11 => "1.1".toList
  | .v2 => "2".toList
  | .v3 => "3".toList

/-- The connection a request arrived on, as far as it is known. -/
structure Connection where
  peer : Option SocketAddress := none
  /-- The address the server accepted the connection at. -/
  server : Option SocketAddress := none
  /-- Whether the server terminates TLS on it. -/
  tls : Bool := false
  deriving DecidableEq, Repr

/-- A request. -/
structure Request where
  method : Text
  uri : Uri
  version : Version
  headers : Headers
  body : Text
  /-- The connection, where the server noted it. -/
  connection : Option Connection
  /-- The holder of the route, where one is attached. -/
  route : Option RouteHolder
  deriving DecidableEq, Repr

/-- A response. -/
structure Response where
  status : Nat
  headers : Headers
  body : Text
  deriving DecidableEq, Repr

/-- A header field from its parts. -/
def buildHeader (name : Text) (value : List UInt8) : Except MessageError Header :=
  if ! isHeaderName name then .error .headerName
  else if ! value.all isValueByte then .error .headerValue
  else .ok ⟨lower name, value⟩

/-- Header fields from their parts. -/
def buildHeaders (fields : List (Text × List UInt8)) : Except MessageError Headers :=
  fields.mapM fun (name, value) => buildHeader name value

/-- A request from its parts. -/
def buildRequest (method uri : Text) (version : Version) (fields : List (Text × List UInt8))
    (body : Text) (connection : Option Connection) (route : Option RouteHolder) :
    Except MessageError Request := do
  if ! isToken method then throw .method
  let uri ← (Uri.read uri).mapError .uri
  let headers ← buildHeaders fields
  return ⟨method, uri, version, headers, body, connection, route⟩

/-- A response from its parts. -/
def buildResponse (status : Nat) (fields : List (Text × List UInt8)) (body : Text) :
    Except MessageError Response := do
  if status < 100 || 999 < status then throw .status
  let headers ← buildHeaders fields
  return ⟨status, headers, body⟩

namespace Request

/-- The scheme of the request target, else the connection's. -/
def scheme (r : Request) : Text :=
  match r.uri.scheme? with
  | some scheme => scheme
  | none => if r.connection.any (·.tls) then "https".toList else "http".toList

/-- The address the request target names without its brackets, else the connection's. -/
def serverAddress? (r : Request) : Option Text :=
  match r.uri.host? with
  | some host => some (dropWhileEnd (· == ']') (host.dropWhile (· == '[')))
  | none => (r.connection.bind (·.server)).map fun address => address.ip.write

/-- The port the request target names, else the connection's. -/
def serverPort? (r : Request) : Option UInt16 :=
  r.uri.port?.or ((r.connection.bind (·.server)).map (·.port))

/-- What may be asked of the request. -/
def facts (r : Request) : RequestFacts where
  method := r.method
  header := r.headers.values
  headerValue := r.headers.value?
  scheme := r.scheme
  path := r.uri.path
  query := r.uri.query?.getD []
  route := r.route.bind (·.route)
  protocolName := some "http".toList
  protocolVersion := some r.version.write
  peerAddress := (r.connection.bind (·.peer)).map fun address => address.ip.write
  peerPort := (r.connection.bind (·.peer)).map (·.port)
  serverAddress := r.serverAddress?
  serverPort := r.serverPort?

end Request

/-- What may be asked of the response. -/
def Response.facts (r : Response) : ResponseFacts where
  status := some r.status
  header := r.headers.values

end ServerTelemetry.Http
