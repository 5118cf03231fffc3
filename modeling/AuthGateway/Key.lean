import AuthGateway.Decimal.Digits
import AuthGateway.Text.Base64
import AuthGateway.Text.Blank
import AuthGateway.Text.Octets
import AuthGateway.Text.Utf8

/-!
Keys and other secrets as text. A key is thirty-two bytes and is read from
standard base64 or from base64url without padding; random values are passed in
as bytes and only shaped here.
-/
namespace AuthGateway

abbrev Key := Octets 32

namespace Key

inductive ReadError where
  | notBase64
  | wrongLength (actual : Nat)
deriving DecidableEq

def ReadError.message : ReadError → String
  | .notBase64 => "Key is not valid base64"
  | .wrongLength n => "Invalid key length: expected 32 bytes, got " ++ Decimal.natText n

def ofText (text : String) : Except ReadError Key :=
  let trimmed := Blank.trimChars text.toList
  match (Base64.decodePadded? Base64.standard trimmed).orElse fun _ =>
      Base64.decodePlain? Base64.urlSafe trimmed with
  | none => .error .notBase64
  | some bytes =>
    match Octets.ofList? bytes with
    | none => .error (.wrongLength bytes.length)
    | some key => .ok key

/-- The padded standard base64 of a key. -/
def toText (key : Key) : String :=
  Base64.encodeStandard key.toList

end Key

namespace Secret

def nonce (random : List UInt8) : String :=
  Base64.encodeUrl random

/-- A CSRF token: 192 random bits. -/
def csrfToken (random : Octets 24) : String :=
  nonce random.toList

/-- Sets the version and the variant of a random UUID. -/
def uuidBytes (random : Octets 16) : List UInt8 :=
  random.toList.zipIdx.map fun (b, i) =>
    if i = 6 then (b &&& 0x0F) ||| 0x40
    else if i = 8 then (b &&& 0x3F) ||| 0x80
    else b

/-- A session id: a random UUID of version 4 in lower case. -/
def sessionId (random : Octets 16) : String :=
  let digits := (Hex.encode (uuidBytes random)).toList
  let groups := [digits.take 8, (digits.drop 8).take 4, (digits.drop 12).take 4,
    (digits.drop 16).take 4, digits.drop 20]
  String.ofList (List.intercalate ['-'] groups)

/-- Byte equality that looks at every byte of texts of one length. -/
def equal (a b : String) : Bool :=
  let x := Utf8.encode a
  let y := Utf8.encode b
  x.length == y.length && (List.zipWith (· ^^^ ·) x y).foldl (· ||| ·) 0 == 0

end Secret

end AuthGateway
