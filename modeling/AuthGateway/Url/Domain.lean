import AuthGateway.Text.Composition
import AuthGateway.Text.Split
import AuthGateway.Url.Domain.Direction
import AuthGateway.Url.Domain.Joining
import AuthGateway.Url.Domain.Mapping
import AuthGateway.Url.Domain.Marks
import AuthGateway.Url.Punycode

/-!
Domains in ASCII. A domain is mapped to its one spelling and cut into labels;
labels that are marked as encoded are decoded, and if all labels are well formed
then those with characters outside ASCII are written in their encoded form.
-/
namespace AuthGateway.Url

/-- A label as it reads and as it stands in a domain. -/
structure Label where
  text : List Char
  ascii : List Char
deriving DecidableEq

namespace Label

def mark : List Char := "xn--".toList

/-- The longest text, behind the mark, that is decoded. -/
def decodingLimit : Nat := 2000

def encodingLimit : Nat := 1000

def isAscii (cs : List Char) : Bool :=
  cs.all fun c => c.toNat < 128

def isSettled (cs : List Char) : Bool :=
  Mapping.text? cs == some cs && Composition.compose cs == cs

/-- The label that a text behind the mark encodes. It has to need the encoding. -/
def decoded? (code : List Char) : Option (List Char) := do
  guard (isAscii code ∧ code.length ≤ decodingLimit)
  let text ← Punycode.decode? code
  guard (!isAscii text ∧ isSettled text)
  return text

def ofChars? (cs : List Char) : Option Label :=
  if mark.isPrefixOf cs then (decoded? (cs.drop mark.length)).map fun text => ⟨text, cs⟩
  else if isAscii cs then some ⟨cs, cs⟩
  else if encodingLimit < cs.length then none
  else some ⟨cs, mark ++ Punycode.encode cs⟩

/-- A label starts with no mark, and its joiners stand where they may. -/
def isWellFormed (l : Label) : Bool :=
  !(l.text.head?.any isMark) && areJoinersPlaced [] l.text

end Label

namespace Domain

/-- The ASCII characters that no domain may hold. -/
def isForbidden (c : Char) : Bool :=
  c.toNat ≤ 0x20 || c.toNat == 0x7F || "%#/:<>?@[\\]^|".toList.contains c

/-- Labels that are well formed. If one of them has characters that are written
from right to left then all have to keep the order of directions. -/
def areWellFormed (labels : List Label) : Bool :=
  labels.all Label.isWellFormed &&
    (!(labels.any fun l => hasRightToLeft l.text) || labels.all fun l => isOrdered l.text)

def ascii? (cs : List Char) : Option (List Char) := do
  let mapped ← Mapping.text? cs
  let labels ← (Split.pieces '.' (Composition.compose mapped)).mapM Label.ofChars?
  let name := Split.join ['.'] (labels.map Label.ascii)
  if areWellFormed labels && !name.any isForbidden then some name else none

end Domain

end AuthGateway.Url
