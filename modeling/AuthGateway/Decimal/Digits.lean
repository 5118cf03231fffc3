import AuthGateway.Text.Ascii

/-!
Whole numbers as decimal digits, written and read.
-/
namespace AuthGateway.Decimal

def natChars (n : Nat) : List Char :=
  Nat.toDigits 10 n

def natText (n : Nat) : String :=
  String.ofList (natChars n)

/-- The digits of an integer, behind a minus sign if it is negative. -/
def integerChars (n : Int) : List Char :=
  if n < 0 then '-' :: natChars n.natAbs else natChars n.natAbs

def value (digits : List Char) : Nat :=
  digits.foldl (fun n c => 10 * n + (c.toNat - 48)) 0

/-- A number below a bound: one or more digits, perhaps behind a plus sign. -/
def natBelow? (bound : Nat) (cs : List Char) : Option Nat :=
  let digits := if cs.head? = some '+' then cs.drop 1 else cs
  if digits.isEmpty || !digits.all Ascii.isDigit then none
  else if value digits < bound then some (value digits)
  else none

end AuthGateway.Decimal
