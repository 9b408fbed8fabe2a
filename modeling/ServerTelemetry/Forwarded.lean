import ServerTelemetry.Text.Letters
import ServerTelemetry.Text.Pieces

/-!
# What a proxy says about a request

Proxies report the client's address and the scheme it used in `Forwarded`, or in `X-Forwarded-For`
and `X-Forwarded-Proto`. The readers here take one header value and answer with a piece of it, or
with nothing where the value does not say.

A `Forwarded` value is read as elements separated by commas, each of them parameters separated by
semicolons; the first parameter of a given name counts. Quotes are only taken off the ends of a
value: a comma or semicolon separates inside quotes as well.
-/

namespace ServerTelemetry.Forwarded

open Text

/-- The value of the parameter, if it has the given name; letter case does not matter. -/
def parameter? (name pair : Text) : Option Text :=
  (cut '=' pair).bind fun (key, value) =>
    if sameLetters (trim key) name then some (trim value) else none

/-- All parameters of a `Forwarded` value, in order. -/
def parameters (value : Text) : List Text :=
  (pieces ',' value).flatMap (pieces ';')

/-- The value of the first parameter with the given name. -/
def directive? (name value : Text) : Option Text :=
  (parameters value).findSome? (parameter? name)

/-- A node without the blanks and quotes around it. -/
def bareNode (node : Text) : Text :=
  trim (unquote (trim node))

/-- The address of a node such as `10.0.0.1:80`, `"[::1]:80"` or `::1`: without quotes, brackets
and port. A single colon separates a port; several belong to an address written bare. -/
def address? (node : Text) : Option Text :=
  match bareNode node with
  | '[' :: inner => (cut ']' inner).bind fun (address, _) => nonEmpty? address
  | bare => nonEmpty? (if bare.count ':' = 1 then first ':' bare else bare)

/-- The scheme of the `proto` parameter of a `Forwarded` value. -/
def scheme? (value : Text) : Option Text :=
  (directive? "proto".toList value).bind fun scheme => nonEmpty? (trim (unquote scheme))

/-- The client address of the `for` parameter of a `Forwarded` value. -/
def client? (value : Text) : Option Text :=
  (directive? "for".toList value).bind address?

/-- The scheme of an `X-Forwarded-Proto` value: its first entry. -/
def plainScheme? (value : Text) : Option Text :=
  nonEmpty? (trim (first ',' value))

/-- The client address of an `X-Forwarded-For` value: its first entry. -/
def plainClient? (value : Text) : Option Text :=
  address? (first ',' value)

end ServerTelemetry.Forwarded
