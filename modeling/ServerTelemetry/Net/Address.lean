import ServerTelemetry.Text.Number
import ServerTelemetry.Text.Pieces

/-!
# Internet addresses

Addresses are written in their canonical form: IPv4 as four decimal bytes; IPv6 as eight hexadecimal
groups in lower case, the first longest run of two or more zero groups replaced by `::`, and an
IPv4-mapped address with its last two groups as an IPv4 address. Reading accepts every spelling of
the same address, and nothing after it.
-/

namespace ServerTelemetry

open Text

/-- An internet address. -/
inductive IpAddress where
  | v4 (a b c d : UInt8)
  | v6 (groups : Vector UInt16 8)
  deriving DecidableEq, Repr

/-- An address with a port. The scope of an IPv6 address is kept, zero without one. -/
structure SocketAddress where
  ip : IpAddress
  port : UInt16
  /-- The scope an IPv6 address belongs to. -/
  scope : UInt32
  deriving DecidableEq, Repr

namespace IpAddress

/-- A group as it is written: hexadecimal without leading zeros. -/
def writeGroup (g : UInt16) : Text :=
  Nat.toDigits 16 g.toNat

/-- The number of zero groups at the front. -/
def zeroRun (groups : List UInt16) : Nat :=
  (groups.takeWhile (· == 0)).length

/-- Where the first longest run of zero groups starts, and its length. -/
def longestZeroRun : List UInt16 → Nat × Nat
  | [] => (0, 0)
  | g :: groups =>
    let here := zeroRun (g :: groups)
    let (start, length) := longestZeroRun groups
    if length ≤ here then (0, here) else (start + 1, length)

/-- Groups with colons between them. -/
def writeGroups (groups : List UInt16) : Text :=
  join [':'] (groups.map writeGroup)

/-- An IPv4 address from its bytes. -/
def writeBytes (a b c d : UInt8) : Text :=
  join ['.'] ([a, b, c, d].map fun x => decimal x.toNat)

/-- The IPv4 address inside an IPv4-mapped IPv6 address. -/
def mapped? (groups : List UInt16) : Option Text :=
  match groups with
  | [0, 0, 0, 0, 0, 0xFFFF, x, y] =>
    some (writeBytes (x >>> 8).toUInt8 x.toUInt8 (y >>> 8).toUInt8 y.toUInt8)
  | _ => none

/-- The canonical form. -/
def write : IpAddress → Text
  | v4 a b c d => writeBytes a b c d
  | v6 groups =>
    let groups := groups.toList
    match mapped? groups with
    | some address => "::ffff:".toList ++ address
    | none =>
      let (start, length) := longestZeroRun groups
      if length < 2 then writeGroups groups
      else writeGroups (groups.take start) ++ "::".toList
        ++ writeGroups (groups.drop (start + length))

/-- A number at the front of the text, with all digits that follow each other there: at most
`maxDigits`, and a leading zero only where `leadingZeros` or it is the only digit. -/
def readNumber (base maxDigits bound : Nat) (leadingZeros : Bool) (s : Text) :
    Option (Nat × Text) :=
  let isDigit := fun c => (digitValue? c).any (· < base)
  let digits := s.takeWhile isDigit
  if digits.length > maxDigits then none
  else if ! leadingZeros && digits.head? == some '0' && digits.length > 1 then none
  else if digits.isEmpty then none
  else
    match readDigits base 0 digits with
    | some n => if n < bound then some (n, s.dropWhile isDigit) else none
    | none => none

/-- A byte of an IPv4 address at the front of the text. -/
def readByte (s : Text) : Option (UInt8 × Text) :=
  (readNumber 10 3 256 false s).map fun (n, rest) => (n.toUInt8, rest)

/-- The text after a given character. -/
def after? (c : Char) : Text → Option Text
  | d :: s => if d = c then some s else none
  | [] => none

/-- The bytes of an IPv4 address at the front of the text. -/
def readBytes (s : Text) : Option ((UInt8 × UInt8 × UInt8 × UInt8) × Text) := do
  let (a, s) ← readByte s
  let (b, s) ← readByte (← after? '.' s)
  let (c, s) ← readByte (← after? '.' s)
  let (d, s) ← readByte (← after? '.' s)
  return ((a, b, c, d), s)

/-- Up to `limit` groups at the front of the text, the first without a colon before it where `first`
says so; the last two may be written as an IPv4 address, which ends the groups. -/
def readGroups (first : Bool) : Nat → Text → List UInt16 × Bool × Text
  | 0, s => ([], false, s)
  | limit + 1, s =>
    match if first then some s else after? ':' s with
    | none => ([], false, s)
    | some body =>
      match if limit = 0 then none else readBytes body with
      | some ((a, b, c, d), rest) =>
        ([a.toUInt16 * 256 + b.toUInt16, c.toUInt16 * 256 + d.toUInt16], true, rest)
      | none =>
        match readNumber 16 4 UInt16.size true body with
        | some (g, rest) =>
          let (groups, ended, rest) := readGroups false limit rest
          (g.toUInt16 :: groups, ended, rest)
        | none => ([], false, s)

/-- Eight groups as an address. -/
def ofGroups? (groups : List UInt16) : Option IpAddress :=
  if h : groups.length = 8 then some (v6 ⟨groups.toArray, by simpa using h⟩) else none

/-- An IPv6 address at the front of the text. -/
def readV6 (s : Text) : Option (IpAddress × Text) :=
  let (head, ended, rest) := readGroups true 8 s
  if head.length = 8 then (ofGroups? head).map (·, rest)
  else if ended then none
  else do
    let rest ← after? ':' (← after? ':' rest)
    let (tail, _, rest) := readGroups true (7 - head.length) rest
    let zeros := List.replicate (8 - head.length - tail.length) 0
    (ofGroups? (head ++ zeros ++ tail)).map (·, rest)

end IpAddress

namespace SocketAddress

/-- The address with its port; an IPv6 address stands in brackets, with its scope. -/
def write (a : SocketAddress) : Text :=
  match a.ip with
  | .v4 .. => a.ip.write ++ ':' :: decimal a.port.toNat
  | .v6 _ =>
    let scope := if a.scope = 0 then [] else '%' :: decimal a.scope.toNat
    '[' :: a.ip.write ++ scope ++ "]:".toList ++ decimal a.port.toNat

/-- A port that ends the text. -/
def readPort (s : Text) : Option UInt16 :=
  match IpAddress.readNumber 10 s.length UInt16.size true s with
  | some (n, []) => some n.toUInt16
  | _ => none

/-- A scope, if the text goes on with one. -/
def readScope (s : Text) : Option (UInt32 × Text) :=
  match s with
  | '%' :: rest =>
    (IpAddress.readNumber 10 rest.length UInt32.size true rest).map fun (n, rest) =>
      (n.toUInt32, rest)
  | _ => some (0, s)

/-- Reads an address with its port. -/
def read (s : Text) : Option SocketAddress :=
  match s with
  | '[' :: inner => do
    let (ip, rest) ← IpAddress.readV6 inner
    let (scope, rest) ← readScope rest
    let port ← readPort (← IpAddress.after? ':' (← IpAddress.after? ']' rest))
    return ⟨ip, port, scope⟩
  | _ => do
    let ((a, b, c, d), rest) ← IpAddress.readBytes s
    let port ← readPort (← IpAddress.after? ':' rest)
    return ⟨.v4 a b c d, port, 0⟩

end SocketAddress

end ServerTelemetry
