import AuthGateway.Url.Ipv4

/-!
IPv6 addresses: eight groups, a run of zeros once left out between two colons,
and the last two groups perhaps as an IPv4 address. Written, the first longest
run of at least two zeros is left out.
-/
namespace AuthGateway.Url.Ipv6

def group? (cs : List Char) : Option Nat :=
  if cs.isEmpty ∨ 4 < cs.length then none else Ipv4.digits? 16 cs

/-- A decimal number below 256 without needless zeros. -/
def byte? (cs : List Char) : Option Nat :=
  if cs.isEmpty ∨ (1 < cs.length ∧ cs.head? = some '0') then none
  else (Ipv4.digits? 10 cs).filter (· ≤ 255)

def dotted? (cs : List Char) : Option (List Nat) :=
  match (Split.pieces '.' cs).mapM byte? with
  | some [a, b, c, d] => some [256 * a + b, 256 * c + d]
  | _ => none

/-- The groups between colons; only the last may be in dotted form, and only if
`dottedEnd` holds. -/
def groups? (dottedEnd : Bool) : List (List Char) → Option (List Nat)
  | [] => some []
  | [p] =>
    if dottedEnd && p.contains '.' then dotted? p else (group? p).map ([·])
  | p :: rest => do return (← group? p) :: (← groups? dottedEnd rest)

def side? (dottedEnd : Bool) (cs : List Char) : Option (List Nat) :=
  if cs.isEmpty then some [] else groups? dottedEnd (Split.pieces ':' cs)

def sides (before : List Char) : List Char → Option (List Char × List Char)
  | ':' :: ':' :: rest => some (before.reverse, rest)
  | c :: rest => sides (c :: before) rest
  | [] => none

def ofChars? (cs : List Char) : Option (List Nat) :=
  match sides [] cs with
  | some (left, right) => do
    let l ← side? false left
    let r ← side? true right
    if l.length + r.length ≤ 7 then
      some (l ++ List.replicate (8 - l.length - r.length) 0 ++ r)
    else none
  | none => (side? true cs).filter (·.length == 8)

def zeroRun (groups : List Nat) : Nat :=
  (groups.takeWhile (· == 0)).length

/-- Start and length of the first longest run of zeros behind the groups seen. -/
def longestRun (start : Nat) : List Nat → Nat × Nat
  | [] => (start, 0)
  | g :: rest =>
    let here := zeroRun (g :: rest)
    let later := longestRun (start + 1) rest
    if later.2 ≤ here then (start, here) else later

def groupChars (n : Nat) : List Char :=
  Nat.toDigits 16 n

def joined (groups : List Nat) : List Char :=
  Split.join [':'] (groups.map groupChars)

def chars (groups : List Nat) : List Char :=
  let (start, run) := longestRun 0 groups
  if run < 2 then joined groups
  else joined (groups.take start) ++ ':' :: ':' :: joined (groups.drop (start + run))

end AuthGateway.Url.Ipv6
