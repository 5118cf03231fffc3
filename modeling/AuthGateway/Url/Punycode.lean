/-!
Punycode, by which a label with characters outside ASCII is written in ASCII:
the ASCII characters come first, and then, in ascending order of the others,
the distances between their insertion points as numbers in mixed radix.
-/
namespace AuthGateway.Url.Punycode

def digitChar (d : Nat) : Char :=
  if d < 26 then Char.ofNat (97 + d) else Char.ofNat (22 + d)

def digitValue? (c : Char) : Option Nat :=
  if 'a' ≤ c ∧ c ≤ 'z' then some (c.toNat - 97)
  else if 'A' ≤ c ∧ c ≤ 'Z' then some (c.toNat - 65)
  else if '0' ≤ c ∧ c ≤ '9' then some (c.toNat - 22)
  else none

def threshold (place bias : Nat) : Nat :=
  if place ≤ bias then 1 else if bias + 26 ≤ place then 26 else place - bias

def scaleDown (delta place : Nat) : Nat × Nat :=
  if 455 < delta then scaleDown (delta / 35) (place + 36) else (delta, place)
termination_by delta
decreasing_by omega

def adapt (delta count : Nat) (first : Bool) : Nat :=
  let halved := if first then delta / 700 else delta / 2
  let (d, place) := scaleDown (halved + halved / count) 0
  place + 36 * d / (d + 38)

def distanceChars (q place bias : Nat) : Nat → List Char
  | 0 => []
  | n + 1 =>
    let t := threshold place bias
    if q < t then [digitChar q]
    else digitChar (t + (q - t) % (36 - t)) :: distanceChars ((q - t) / (36 - t)) (place + 36) bias n

/-- How an encoder or decoder stands between two distances. -/
structure State where
  next : Nat
  delta : Nat
  bias : Nat
  count : Nat

def encodeStep (basic m : Nat) (acc : List Char × State) (c : Char) : List Char × State :=
  let (out, s) := acc
  if c.toNat < m then (out, { s with delta := s.delta + 1 })
  else if c.toNat = m then
    (out ++ distanceChars s.delta 36 s.bias 40,
      { s with delta := 0, bias := adapt s.delta (s.count + 1) (s.count == basic), count := s.count + 1 })
  else acc

def encodeFrom (basic : Nat) (label : List Char) (s : State) : Nat → List Char
  | 0 => []
  | n + 1 =>
    match ((label.map Char.toNat).filter (s.next ≤ ·)).min? with
    | none => []
    | some m =>
      let start := { s with delta := s.delta + (m - s.next) * (s.count + 1) }
      let (out, after) := label.foldl (encodeStep basic m) ([], start)
      out ++ encodeFrom basic label { after with next := m + 1, delta := after.delta + 1 } n

def encode (label : List Char) : List Char :=
  let basic := label.filter (·.toNat < 128)
  basic ++ (if basic.isEmpty then [] else ['-']) ++
    encodeFrom basic.length label ⟨128, 0, 72, basic.length⟩ label.length

/-- Reads one distance: its value and what follows it. All numbers on the way
have to fit 32 bits. -/
def distance? (bias : Nat) (i weight place : Nat) : List Char → Option (Nat × List Char)
  | [] => none
  | c :: rest => do
    let d ← digitValue? c
    let t := threshold place bias
    let i := i + d * weight
    if UInt32.size ≤ max i weight then none
    else if d < t then some (i, rest)
    else distance? bias i (weight * (36 - t)) (place + 36) rest

/-- Inserts one character per distance. -/
def decodeFrom (out : List Char) (s : State) (cs : List Char) : Nat → Option (List Char)
  | 0 => none
  | n + 1 =>
    if cs.isEmpty then some out
    else do
      let (i, rest) ← distance? s.bias s.delta 1 36 cs
      let count := out.length + 1
      let code := s.next + i / count
      let place := i % count
      if 0x10FFFF < code ∨ (0xD800 ≤ code ∧ code ≤ 0xDFFF) then none
      else
        decodeFrom (out.take place ++ Char.ofNat code :: out.drop place)
          ⟨code, place + 1, adapt (i - s.delta) count (s.delta == 0 && s.count == 0), s.count + 1⟩ rest n

/-- The label that some ASCII text stands for. A hyphen at the front is none that
follows ASCII characters. -/
def decode? (cs : List Char) : Option (List Char) :=
  let reversed := cs.reverse
  let basic := ((reversed.dropWhile (· != '-')).drop 1).reverse
  let distances := if basic.isEmpty then cs else (reversed.takeWhile (· != '-')).reverse
  decodeFrom basic ⟨128, 0, 72, 0⟩ distances (cs.length + 1)

end AuthGateway.Url.Punycode
