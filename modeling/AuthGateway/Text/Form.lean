import AuthGateway.Text.Percent
import AuthGateway.Text.Split

/-!
URL-encoded forms, as they stand in a query or a body: named values joined by
ampersands, a plus sign for a space, percent escapes, and text that may be
malformed.
-/
namespace AuthGateway.Form

def decodeText (bytes : List UInt8) : String :=
  Utf8.decodeLossy (Percent.decode (bytes.map fun b => if b = 0x2B then 0x20 else b))

/-- One named value; a piece without an equals sign has the empty value. -/
def pair (piece : List UInt8) : String × String :=
  (decodeText (Split.before 0x3D piece), decodeText ((Split.after? 0x3D piece).getD []))

def pairs (bytes : List UInt8) : List (String × String) :=
  ((Split.pieces 0x26 bytes).filter fun p => !p.isEmpty).map pair

def first? (name : String) (bytes : List UInt8) : Option String :=
  ((pairs bytes).find? fun p => p.1 == name).map Prod.snd

end AuthGateway.Form
