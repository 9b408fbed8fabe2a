import ServerTelemetry.Text.Number
import ServerTelemetry.Text.Printable

/-!
# Quoted text

A text between double quotes, as messages and log lines show it: the quote, the backslash, the tab
and the line breaks are escaped with a backslash, characters that do not show are written by number.
-/

namespace ServerTelemetry.Text

/-- One character between quotes. -/
def quoteChar (c : Char) : Text :=
  if c = '\x00' then "\\0".toList
  else if c = '\t' then "\\t".toList
  else if c = '\r' then "\\r".toList
  else if c = '\n' then "\\n".toList
  else if c = '"' then "\\\"".toList
  else if c = '\\' then "\\\\".toList
  else if isPrintable c then [c]
  else "\\u\x7b".toList ++ Nat.toDigits 16 c.toNat ++ ['\x7d']

/-- The text between double quotes. -/
def quote (s : Text) : Text :=
  '"' :: s.flatMap quoteChar ++ ['"']

end ServerTelemetry.Text
