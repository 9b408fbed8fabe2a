import ServerTelemetry.Attribute
import ServerTelemetry.Facts
import ServerTelemetry.Forwarded
import ServerTelemetry.Text.Number

/-!
# Attributes of a request and of its outcome

An extractor turns facts into attributes, in a fixed order: `onStart` when the request arrives,
`onEnd` when its outcome is known. Which headers are captured, which methods are known and whether a
proxy's word on the scheme counts is decided by its options.

Sources are tried in an order of their own for each attribute: the client address comes from
`Forwarded`, then `X-Forwarded-For`, then the peer; the server address from `Host`, then the request
target or connection.
-/

namespace ServerTelemetry

open Text

/-- The methods of HTTP, with `PATCH`. -/
def standardMethods : List Text :=
  ["CONNECT", "DELETE", "GET", "HEAD", "OPTIONS", "PATCH", "POST", "PUT", "TRACE"].map String.toList

/-- What an extractor is to record; header names are taken in any case and with blanks around. -/
structure ExtractorOptions where
  /-- Names of the request headers to record. -/
  capturedRequestHeaders : List Text := []
  /-- Names of the response headers to record. -/
  capturedResponseHeaders : List Text := []
  /-- The methods recorded as they are. -/
  knownMethods : List Text := standardMethods
  /-- Whether the scheme a proxy reports comes before the request's own. -/
  preferForwardedScheme : Bool := false
  deriving DecidableEq, Repr

/-- Header names in the form they are looked up and recorded in. -/
def headerNames (names : List Text) : List Text :=
  (names.map fun name => lower (trim name)).filter (! ·.isEmpty)

/-- A host name and, if one is given and readable, a port: `example.com:8080`, `[::1]:8080`. -/
def splitHostAndPort (host : Text) : Option (Text × Option UInt16) :=
  match trim host with
  | '[' :: inner => do
    let (address, rest) ← cut ']' inner
    let address ← nonEmpty? address
    match rest with
    | ':' :: port => return (address, readUInt16 port)
    | _ => return (address, none)
  | host =>
    let (address, port) := match cutLast ':' host with
      | some (address, port) => (address, readUInt16 port)
      | none => (host, none)
    (nonEmpty? address).map (·, port)

/-- Whether the port is the one the scheme implies. -/
def isDefaultPort (scheme : Text) (port : UInt16) : Bool :=
  (scheme == "http".toList && port == 80) || (scheme == "https".toList && port == 443)

/-- The rules by which facts become attributes. -/
structure Extractor where
  /-- The request headers to record, in lower case. -/
  requestHeaders : List Text
  /-- The response headers to record, in lower case. -/
  responseHeaders : List Text
  /-- The methods recorded as they are. -/
  knownMethods : List Text
  /-- Whether the scheme a proxy reports comes before the request's own. -/
  preferForwardedScheme : Bool
  deriving DecidableEq, Repr

namespace Extractor

/-- The extractor with these options. -/
def ofOptions (o : ExtractorOptions) : Extractor :=
  ⟨headerNames o.capturedRequestHeaders, headerNames o.capturedResponseHeaders, o.knownMethods,
    o.preferForwardedScheme⟩

/-- The extractor that captures no headers and knows the standard methods. -/
def standard : Extractor where
  requestHeaders := []
  responseHeaders := []
  knownMethods := standardMethods
  preferForwardedScheme := false

/-- What stands for a method or failure outside the known ones. -/
def other : Text :=
  "_OTHER".toList

/-- Whether the method is recorded as it is. -/
def knows (e : Extractor) (method : Text) : Bool :=
  e.knownMethods.contains method

/-- The method, with what the request says beside a stand-in. -/
def methodAttributes (e : Extractor) (r : RequestFacts) : List Attribute :=
  if e.knows r.method then [⟨.requestMethod, .text r.method⟩]
  else [⟨.requestMethod, .text other⟩, ⟨.requestMethodOriginal, .text r.method⟩]

/-- The scheme a proxy reports: `Forwarded` before `X-Forwarded-Proto`. -/
def proxyScheme? (r : RequestFacts) : Option Text :=
  ((r.headerValue "forwarded".toList).bind Forwarded.scheme?).or
    ((r.headerValue "x-forwarded-proto".toList).bind Forwarded.plainScheme?)

/-- The scheme the client used, as far as the options trust a proxy. -/
def scheme (e : Extractor) (r : RequestFacts) : Text :=
  (if e.preferForwardedScheme then proxyScheme? r else none).getD r.scheme

/-- The client's address: `Forwarded`, then `X-Forwarded-For`, then the peer. -/
def clientAddress? (r : RequestFacts) : Option Text :=
  ((r.headerValue "forwarded".toList).bind Forwarded.client?).or
    (((r.headerValue "x-forwarded-for".toList).bind Forwarded.plainClient?).or r.peerAddress)

/-- The server's address and port: `Host`, then what the request target or connection says. -/
def server (r : RequestFacts) : Option Text × Option UInt16 :=
  match (r.headerValue "host".toList).bind splitHostAndPort with
  | some (address, port) => (some address, port.or r.serverPort)
  | none => (r.serverAddress, r.serverPort)

/-- The server's port, unless the scheme implies it. -/
def reportedPort? (e : Extractor) (r : RequestFacts) : Option UInt16 :=
  (server r).2.filter fun port => ! isDefaultPort (e.scheme r) port

/-- Attributes known when the request arrives. -/
def onStart (e : Extractor) (r : RequestFacts) : List Attribute :=
  e.methodAttributes r
    ++ Attribute.filled .urlPath r.path
    ++ Attribute.filled .urlQuery r.query
    ++ Attribute.text? .userAgent (r.headerValue "user-agent".toList)
    ++ Attribute.text? .route (r.route.bind nonEmpty?)
    ++ Attribute.text? .clientAddress (clientAddress? r)
    ++ Attribute.text? .serverAddress (server r).1
    ++ Attribute.number? .serverPort ((e.reportedPort? r).map UInt16.toNat)
    ++ Attribute.text? .peerAddress r.peerAddress
    ++ Attribute.number? .peerPort (r.peerPort.map UInt16.toNat)
    ++ Attribute.text? .protocolName (r.protocolName.filter (! sameLetters · "http".toList))
    ++ Attribute.text? .protocolVersion r.protocolVersion
    ++ Attribute.filled .urlScheme (e.scheme r)
    ++ e.requestHeaders.flatMap fun name =>
      Attribute.texts (.requestHeader name) (r.header name)

/-- The kind of failure: the status from 500 on, else a stand-in where there was an error. -/
def errorType? (code : Option Nat) (error : Option Text) : Option Text :=
  match code with
  | some code => if 500 ≤ code then some (decimal code) else error.map fun _ => other
  | none => error.map fun _ => other

/-- Attributes known once the request has been handled. -/
def onEnd (e : Extractor) (response : Option ResponseFacts) (error route : Option Text) :
    List Attribute :=
  let code := response.bind (·.status)
  Attribute.number? .responseStatus code
    ++ Attribute.text? .errorType (errorType? code error)
    ++ (response.toList.flatMap fun response => e.responseHeaders.flatMap fun name =>
      Attribute.texts (.responseHeader name) (response.header name))
    ++ Attribute.text? .route (route.bind nonEmpty?)

/-- The method as span names show it. -/
def spanMethod (e : Extractor) (r : RequestFacts) : Text :=
  if e.knows r.method then r.method else "HTTP".toList

/-- The method with the route, where that is known. -/
def spanName (e : Extractor) (r : RequestFacts) (route : Option Text) : Text :=
  match route.bind nonEmpty? with
  | some route => e.spanMethod r ++ ' ' :: route
  | none => e.spanMethod r

end Extractor

end ServerTelemetry
