import AuthGateway.Crypto.Gcm
import AuthGateway.Json.Node
import AuthGateway.Text.Base64
import AuthGateway.Text.Split

/-!
Sealed tokens: a JSON text encrypted under the gateway's key and written as
five base64url segments, which are a header, an empty key segment, the nonce,
the ciphertext and the tag. The header text is authenticated with the rest. A
token is malformed if it denotes no box, tampered with if its box does not
open, and of another shape if what is inside is not what the reader expects.
-/
namespace AuthGateway

namespace Token

/-- What a well-formed token denotes. -/
structure Box where
  header : List Char
  nonce : Octets 12
  ciphertext : List UInt8
  tag : Octets 16
deriving DecidableEq

inductive OpenError where
  | malformed
  | tampered
  | schemaMismatch
deriving DecidableEq

def OpenError.message : OpenError → String
  | .malformed => "token is malformed"
  | .tampered => "token failed integrity verification"
  | .schemaMismatch => "token payload does not match the expected shape"

/-- Key agreement and content encryption, the only ones written or accepted. -/
def algorithm : String := "dir"

def contentEncryption : String := "A256GCM"

def headerJson : Json.Value :=
  .object [("alg", .string algorithm), ("enc", .string contentEncryption)]

def segmentBytes? (segment : List Char) : Option (List UInt8) :=
  Base64.decodePlain? Base64.urlSafe segment

def segment (bytes : List UInt8) : List Char :=
  Base64.encodeWith Base64.urlSafe [] bytes

def ownHeader : List Char :=
  segment (Utf8.encode headerJson.render)

def acceptsHeader (header : List Char) : Bool :=
  match (segmentBytes? header).bind Json.parse? with
  | none => false
  | some n =>
    match n.record? ["alg", "enc"] with
    | none => false
    | some r =>
      r.required? "alg" (·.text?) == some algorithm &&
        r.required? "enc" (·.text?) == some contentEncryption

namespace Box

def segments (b : Box) : List (List Char) :=
  [b.header, [], segment b.nonce.toList, segment b.ciphertext, segment b.tag.toList]

def chars (b : Box) : List Char :=
  Split.join ['.'] b.segments

def ofChars? (cs : List Char) : Option Box :=
  match Split.pieces '.' cs with
  | [header, [], nonce, ciphertext, tag] => do
    guard (acceptsHeader header)
    return ⟨header, ← (segmentBytes? nonce).bind Octets.ofList?, ← segmentBytes? ciphertext,
      ← (segmentBytes? tag).bind Octets.ofList?⟩
  | _ => none

def open? (key : Octets 32) (b : Box) : Option (List UInt8) :=
  Gcm.decrypt? key b.nonce (Utf8.encodeChars b.header) b.ciphertext b.tag

def ofPlaintext (key : Octets 32) (nonce : Octets 12) (plaintext : List UInt8) : Box :=
  let (ciphertext, tag) := Gcm.encrypt key nonce (Utf8.encodeChars ownHeader) plaintext
  ⟨ownHeader, nonce, ciphertext, tag⟩

end Box

/-- The token that seals a value under a key, with a nonce of its own. -/
def sealJson (key : Octets 32) (nonce : Octets 12) (v : Json.Value) : String :=
  String.ofList (Box.ofPlaintext key nonce (Utf8.encode v.render)).chars

def openBytes (key : Octets 32) (token : String) : Except OpenError (List UInt8) :=
  match Box.ofChars? token.toList with
  | none => .error .malformed
  | some b =>
    match b.open? key with
    | none => .error .tampered
    | some bytes => .ok bytes

def openWith {α : Type} (key : Octets 32) (token : String) (read : List UInt8 → Option α) :
    Except OpenError α :=
  match openBytes key token with
  | .error e => .error e
  | .ok bytes =>
    match read bytes with
    | none => .error .schemaMismatch
    | some a => .ok a

/-- The value inside a token, of the shape that a reader of JSON expects. -/
def openJson {α : Type} (key : Octets 32) (token : String) (read : Json.Node → Option α) :
    Except OpenError α :=
  openWith key token fun bytes => (Json.parse? bytes).bind read

end Token

end AuthGateway
