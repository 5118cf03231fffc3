/-!
Letters and digits of ASCII, and the case of its letters.
-/
namespace AuthGateway.Ascii

def isLower (c : Char) : Bool :=
  'a' ≤ c && c ≤ 'z'

def isUpper (c : Char) : Bool :=
  'A' ≤ c && c ≤ 'Z'

def isLetter (c : Char) : Bool :=
  isLower c || isUpper c

def isDigit (c : Char) : Bool :=
  '0' ≤ c && c ≤ '9'

def isAlphanumeric (c : Char) : Bool :=
  isLetter c || isDigit c

/-- The lower case of a letter; other characters stay. -/
def lowerChar (c : Char) : Char :=
  if isUpper c then Char.ofNat (c.toNat + 32) else c

def lower (s : String) : String :=
  String.ofList (s.toList.map lowerChar)

def sameIgnoringCase (a b : String) : Bool :=
  lower a == lower b

end AuthGateway.Ascii
