import ServerTelemetry.Facts
import ServerTelemetry.Text.Letters

/-!
# Header fields

A header field is a name with a value of bytes. Names are tokens and ignore letter case, so they are
kept in lower case. A value is *readable* when all its bytes are printable ASCII or tabs; other
values, UTF-8 text among them, are carried but never looked at.

`values` splits at commas, so how a sender groups the entries of a list into field lines does not
matter to it; `value?` is the header as it was sent.
-/

namespace ServerTelemetry.Http

open Text

/-- The characters of a token: visible ASCII other than the delimiters. -/
def isTokenChar (c : Char) : Bool :=
  c.isAlphanum || "!#$%&'*+-.^_|~\x60".toList.contains c

/-- A token: one such character or more. -/
def isToken (s : Text) : Bool :=
  ! s.isEmpty && s.all isTokenChar

/-- A header field. -/
structure Header where
  name : Text
  value : List UInt8
  deriving DecidableEq, Repr

/-- The names a header field can have: tokens of at most `2 ^ 16 - 1` bytes. -/
def isHeaderName (s : Text) : Bool :=
  isToken s && s.length ≤ 65535

/-- The bytes a value may have: no control characters but the tab. -/
def isValueByte (b : UInt8) : Bool :=
  b == 9 || (32 ≤ b.toNat && b.toNat != 127)

/-- The bytes that can be read as text: printable ASCII and the tab. -/
def isReadableByte (b : UInt8) : Bool :=
  b == 9 || (32 ≤ b.toNat && b.toNat < 127)

/-- The value as text, if it is readable. -/
def readable? (value : List UInt8) : Option Text :=
  if value.all isReadableByte then some (value.map fun b => Char.ofNat b.toNat) else none

/-- Header fields in the order they came. -/
abbrev Headers := List Header

namespace Headers

/-- The readable values of the fields with a name, each as a whole. -/
def lines (headers : Headers) (name : Text) : List Text :=
  (headers.filter fun h => h.name == lower name).filterMap fun h => readable? h.value

/-- The entries of the fields with a name: readable values cut at commas, trimmed, none empty. -/
def values (headers : Headers) (name : Text) : List Text :=
  (headers.lines name).flatMap items

/-- The header with a name as it was sent. -/
def value? (headers : Headers) (name : Text) : Option Text :=
  joinedHeader (headers.lines name)

/-- The value of the first field with a name, if that one is readable. -/
def first? (headers : Headers) (name : Text) : Option Text :=
  (headers.find? fun h => h.name == lower name).bind fun h => readable? h.value

end Headers

end ServerTelemetry.Http
