import AuthGateway.Text.Octets
import AuthGateway.Text.Utf8

/-!
Percent escapes. Decoding leaves a percent sign that no two hexadecimal digits
follow as it stands; encoding escapes the bytes of a character outside ASCII
and of the ASCII characters in a given set.
-/
namespace AuthGateway.Percent

def byte? (hi lo : UInt8) : Option UInt8 := do
  let h ← Hex.value? (Char.ofNat hi.toNat)
  let l ← Hex.value? (Char.ofNat lo.toNat)
  return UInt8.ofNat (16 * h + l)

/-- Decodes the bytes behind those already decoded, which are kept in reverse. -/
def decodeOnto (done : List UInt8) : List UInt8 → List UInt8
  | [] => done.reverse
  | 0x25 :: hi :: lo :: rest =>
    match byte? hi lo with
    | some b => decodeOnto (b :: done) rest
    | none => decodeOnto (0x25 :: done) (hi :: lo :: rest)
  | b :: rest => decodeOnto (b :: done) rest

def decode (bytes : List UInt8) : List UInt8 :=
  decodeOnto [] bytes

def decodeText? (s : String) : Option String :=
  Utf8.decode? (decode (Utf8.encode s))

def escape (b : UInt8) : List Char :=
  ['%', Hex.upperDigit (b.toNat / 16), Hex.upperDigit (b.toNat % 16)]

/-- One character, escaped if it is outside ASCII or in the set. -/
def encodeChar (escaped : Char → Bool) (c : Char) : List Char :=
  if c.toNat < 0x80 ∧ escaped c = false then [c] else (Utf8.encodeChar c).flatMap escape

def encode (escaped : Char → Bool) (cs : List Char) : List Char :=
  cs.flatMap (encodeChar escaped)

end AuthGateway.Percent
