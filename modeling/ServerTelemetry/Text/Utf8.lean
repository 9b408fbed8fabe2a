import ServerTelemetry.Text.Blank

/-!
# Text as bytes

The UTF-8 form of text. `utf8Length` counts its bytes without writing them; `utf8Encode` writes them
and `utf8Decode` reads them back. Decoding refuses what no text is written as: stray or missing
continuation bytes, overlong forms, surrogates and numbers beyond the last character.
-/

namespace ServerTelemetry.Text

/-- The number of bytes of the text in UTF-8. -/
def utf8Length : Text → Nat
  | [] => 0
  | c :: s => c.utf8Size + utf8Length s

/-- The bytes of one character. -/
def utf8EncodeChar (c : Char) : List UInt8 :=
  let n := c.toNat
  if n < 0x80 then [n.toUInt8]
  else if n < 0x800 then [(0xC0 + n / 0x40).toUInt8, (0x80 + n % 0x40).toUInt8]
  else if n < 0x10000 then
    [(0xE0 + n / 0x1000).toUInt8, (0x80 + n / 0x40 % 0x40).toUInt8, (0x80 + n % 0x40).toUInt8]
  else
    [(0xF0 + n / 0x40000).toUInt8, (0x80 + n / 0x1000 % 0x40).toUInt8,
      (0x80 + n / 0x40 % 0x40).toUInt8, (0x80 + n % 0x40).toUInt8]

/-- The bytes of the text. -/
def utf8Encode (s : Text) : List UInt8 :=
  s.flatMap utf8EncodeChar

/-- The number carried by a continuation byte. -/
def continuation? (b : UInt8) : Option Nat :=
  if 0x80 ≤ b.toNat ∧ b.toNat < 0xC0 then some (b.toNat - 0x80) else none

/-- The character with a given number, if it needs at least that number and is no surrogate. -/
def scalar? (least n : Nat) : Option Char :=
  if least ≤ n ∧ n.isValidChar then some (Char.ofNat n) else none

/-- The text written as these bytes, if there is one. -/
def utf8Decode : List UInt8 → Option Text
  | [] => some []
  | a :: rest =>
    let n := a.toNat
    if n < 0x80 then (utf8Decode rest).map (Char.ofNat n :: ·)
    else if n < 0xC0 then none
    else if n < 0xE0 then
      match rest with
      | b :: rest => do
        let x ← continuation? b
        let c ← scalar? 0x80 ((n - 0xC0) * 0x40 + x)
        (utf8Decode rest).map (c :: ·)
      | _ => none
    else if n < 0xF0 then
      match rest with
      | b :: b' :: rest => do
        let x ← continuation? b
        let y ← continuation? b'
        let c ← scalar? 0x800 ((n - 0xE0) * 0x1000 + x * 0x40 + y)
        (utf8Decode rest).map (c :: ·)
      | _ => none
    else if n < 0xF8 then
      match rest with
      | b :: b' :: b'' :: rest => do
        let x ← continuation? b
        let y ← continuation? b'
        let z ← continuation? b''
        let c ← scalar? 0x10000 ((n - 0xF0) * 0x40000 + x * 0x1000 + y * 0x40 + z)
        (utf8Decode rest).map (c :: ·)
      | _ => none
    else none

end ServerTelemetry.Text
