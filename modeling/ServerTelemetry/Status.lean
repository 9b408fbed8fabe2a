import ServerTelemetry.Text.Blank

/-!
# The status of a server span

A server span has failed when the response has a status of 500 or above, or when there is no
response but an error. What the client did wrong (4xx) is not the server's failure.
-/

namespace ServerTelemetry

/-- The status of a span. -/
inductive Status where
  | unset
  | error (description : Text)
  deriving DecidableEq, Repr

/-- The status after a response with this status code, or after this error. -/
def Status.ofOutcome (code : Option Nat) (error : Option Text) : Status :=
  match code, error with
  | some code, _ => if 500 ≤ code then .error [] else .unset
  | none, some error => .error error
  | none, none => .unset

end ServerTelemetry
