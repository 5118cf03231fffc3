import AuthGateway.Decimal.Digits
import AuthGateway.Text.Octets
import AuthGateway.Text.Split

/-!
IPv4 addresses in hosts: up to four numbers in decimal, octal or hexadecimal,
of which the last fills all bytes that the others leave, and written as four
decimal numbers.
-/
namespace AuthGateway.Url.Ipv4

def digits? (base : Nat) (cs : List Char) : Option Nat :=
  cs.foldlM (fun n c => do
    let d ← Hex.value? c
    if d < base then some (n * base + d) else none) 0

/-- A number with the usual marks for its base. A mark alone is zero. -/
def number? : List Char → Option Nat
  | [] => none
  | '0' :: 'x' :: rest => digits? 16 rest
  | '0' :: 'X' :: rest => digits? 16 rest
  | '0' :: c :: rest => digits? 8 (c :: rest)
  | cs => digits? 10 cs

/-- The parts between the dots; one dot at the end does not count. -/
def parts (cs : List Char) : List (List Char) :=
  let ps := Split.pieces '.' cs
  if 1 < ps.length ∧ ps.getLast? = some [] then ps.dropLast else ps

/-- Whether a domain has to be an address, because it ends in a number. -/
def endsInNumber (cs : List Char) : Bool :=
  match (parts cs).getLast? with
  | none => false
  | some p => (!p.isEmpty && p.all Ascii.isDigit) || (number? p).isSome

def ofNumbers? : List Nat → Option Nat
  | [] => none
  | ns =>
    let last := ns.getLast?.getD 0
    let firsts := ns.dropLast
    if 3 < firsts.length ∨ firsts.any (255 < ·) ∨ 1 <<< (8 * (4 - firsts.length)) ≤ last then none
    else
      some ((firsts.zipIdx.map fun (n, i) => n <<< (8 * (3 - i))).foldl (· + ·) last)

def ofChars? (cs : List Char) : Option UInt32 := do
  let ns ← (parts cs).mapM number?
  return UInt32.ofNat (← ofNumbers? ns)

def chars (address : UInt32) : List Char :=
  let n := address.toNat
  Decimal.natChars (n / 16777216) ++ '.' :: (Decimal.natChars (n / 65536 % 256) ++
    '.' :: (Decimal.natChars (n / 256 % 256) ++ '.' :: Decimal.natChars (n % 256)))

end AuthGateway.Url.Ipv4
