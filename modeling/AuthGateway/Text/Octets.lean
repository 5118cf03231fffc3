/-!
Byte strings of a fixed length, as keys, nonces and digests have it, and the
hexadecimal digits in which bytes are written.
-/
namespace AuthGateway

/-- Exactly `n` bytes. -/
structure Octets (n : Nat) where
  toList : List UInt8
  length_eq : toList.length = n
deriving DecidableEq

namespace Octets

theorem ext {n : Nat} {a b : Octets n} (h : a.toList = b.toList) : a = b := by
  cases a
  cases b
  cases h
  rfl

def ofList? {n : Nat} (bytes : List UInt8) : Option (Octets n) :=
  if h : bytes.length = n then some ⟨bytes, h⟩ else none

theorem ofList?_eq_some_iff {n : Nat} {bytes : List UInt8} {o : Octets n} :
    ofList? bytes = some o ↔ bytes = o.toList := by
  unfold ofList?
  constructor
  · intro h
    split at h
    · cases h
      rfl
    · cases h
  · intro h
    subst h
    simp [o.length_eq]

theorem ofList?_toList {n : Nat} (o : Octets n) : ofList? o.toList = some o :=
  ofList?_eq_some_iff.2 rfl

end Octets

namespace Hex

def value? (c : Char) : Option Nat :=
  if '0' ≤ c ∧ c ≤ '9' then some (c.toNat - 48)
  else if 'a' ≤ c ∧ c ≤ 'f' then some (c.toNat - 87)
  else if 'A' ≤ c ∧ c ≤ 'F' then some (c.toNat - 55)
  else none

def lowerDigit (n : Nat) : Char :=
  if n < 10 then Char.ofNat (48 + n) else Char.ofNat (87 + n)

def upperDigit (n : Nat) : Char :=
  if n < 10 then Char.ofNat (48 + n) else Char.ofNat (55 + n)

def encode (bytes : List UInt8) : String :=
  String.ofList (bytes.flatMap fun b => [lowerDigit (b.toNat / 16), lowerDigit (b.toNat % 16)])

private def decodePairs : List Char → Option (List UInt8)
  | [] => some []
  | [_] => none
  | hi :: lo :: rest => do
    let h ← value? hi
    let l ← value? lo
    return UInt8.ofNat (16 * h + l) :: (← decodePairs rest)

def decode? (text : String) : Option (List UInt8) :=
  decodePairs text.toList

end Hex

end AuthGateway
