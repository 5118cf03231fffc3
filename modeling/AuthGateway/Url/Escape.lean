import AuthGateway.Text.Percent

/-!
Which characters are escaped in each part of a URL. Characters outside ASCII
always are.
-/
namespace AuthGateway.Url.Escape

def isControl (c : Char) : Bool :=
  c.toNat < 0x20 || c.toNat == 0x7F

def inFragment (c : Char) : Bool :=
  isControl c || " \"<>`".toList.contains c

def inPath (c : Char) : Bool :=
  inFragment c || c == '#' || c == '?' || c == '\x7b' || c == '\x7d'

def inUserinfo (c : Char) : Bool :=
  inPath c || "/:;=@[\\]^|".toList.contains c

def inQuery (special : Bool) (c : Char) : Bool :=
  isControl c || " \"#<>".toList.contains c || (special && c == '\'')

/-- Tabs and line ends, which a URL may hold anywhere and which mean nothing. -/
def isIgnored (c : Char) : Bool :=
  c == '\t' || c == '\n' || c == '\r'

def significant (cs : List Char) : List Char :=
  cs.filter fun c => !isIgnored c

def dropSignificant : Nat → List Char → List Char
  | 0, cs => cs
  | _, [] => []
  | n + 1, c :: rest =>
    if isIgnored c then dropSignificant (n + 1) rest else dropSignificant n rest

end AuthGateway.Url.Escape
