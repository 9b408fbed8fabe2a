import ServerTelemetry.Text.Pieces

/-!
# What may be asked of a request and of a response

Attributes are derived from these facts alone, so any framework that can answer them is covered. An
absent fact is an empty list or `none`, never a stand-in value.
-/

namespace ServerTelemetry

/-- A header as it was sent: its values joined with a comma and a space, absent without values. -/
def joinedHeader (values : List Text) : Option Text :=
  if values.isEmpty then none else some (Text.join ", ".toList values)

/-- What may be asked of a request. -/
structure RequestFacts where
  method : Text
  /-- The values of the header with a given name, in order. -/
  header : Text → List Text
  /-- The header with a given name as it was sent; values that `header` splits are whole here. -/
  headerValue : Text → Option Text := fun name => joinedHeader (header name)
  /-- The scheme of the request target, or of the connection. -/
  scheme : Text
  /-- The path of the request target, without the query. -/
  path : Text
  /-- The query of the request target; empty without one. -/
  query : Text
  /-- The route template, where it is known already. -/
  route : Option Text := none
  protocolName : Option Text := none
  protocolVersion : Option Text := none
  /-- The address of the direct peer. -/
  peerAddress : Option Text := none
  peerPort : Option UInt16 := none
  /-- The server's address, for requests that do not name it. -/
  serverAddress : Option Text := none
  /-- The server's port, for requests that do not name it. -/
  serverPort : Option UInt16 := none

/-- What may be asked of a response. -/
structure ResponseFacts where
  /-- The status, where one has been assigned. -/
  status : Option Nat
  /-- The values of the header with a given name, in order. -/
  header : Text → List Text

end ServerTelemetry
