import AuthGateway.Crypto.Sha256
import AuthGateway.Text.Utf8

/-!
A Bloom filter over texts. The bit positions of a key come from the two halves
of its digest by double hashing. A key that was inserted is always found; a key
that was not is found only if other keys happen to have set all of its bits.
-/
namespace AuthGateway.Revocation

/-- At least one bit, in words of sixty-four. -/
structure Bloom where
  numBits : UInt64
  numHashes : Nat
  words : Array UInt64
  positive : 0 < numBits.toNat
  size_eq : words.size = (numBits.toNat + 63) / 64
deriving DecidableEq

namespace Bloom

def empty (numBits : UInt64) (numHashes : Nat) (positive : 0 < numBits.toNat) : Bloom where
  numBits := numBits
  numHashes := numHashes
  words := Array.replicate ((numBits.toNat + 63) / 64) 0
  positive := positive
  size_eq := Array.size_replicate

def wordIndex (bit : UInt64) : Nat :=
  (bit / 64).toNat

def mask (bit : UInt64) : UInt64 :=
  1 <<< (bit % 64)

def littleEndian (bytes : List UInt8) : UInt64 :=
  (bytes.take 8).foldr (fun b n => n <<< 8 ||| b.toUInt64) 0

def positions (f : Bloom) (digest : List UInt8) : List UInt64 :=
  let start := littleEndian digest
  let stride := littleEndian (digest.drop 8) ||| 1
  (List.range f.numHashes).map fun i => (start + UInt64.ofNat i * stride) % f.numBits

def setBit (words : Array UInt64) (bit : UInt64) : Array UInt64 :=
  words.modify (wordIndex bit) (· ||| mask bit)

def hasBit (words : Array UInt64) (bit : UInt64) : Bool :=
  words.getD (wordIndex bit) 0 &&& mask bit != 0

theorem size_foldl_setBit (bits : List UInt64) (words : Array UInt64) :
    (bits.foldl setBit words).size = words.size := by
  induction bits generalizing words with
  | nil => rfl
  | cons b rest ih => rw [List.foldl_cons, ih, setBit, Array.size_modify]

def insertDigest (f : Bloom) (digest : List UInt8) : Bloom where
  numBits := f.numBits
  numHashes := f.numHashes
  words := (f.positions digest).foldl setBit f.words
  positive := f.positive
  size_eq := by rw [size_foldl_setBit, f.size_eq]

def containsDigest (f : Bloom) (digest : List UInt8) : Bool :=
  (f.positions digest).all (hasBit f.words)

def digest (key : String) : List UInt8 :=
  Sha256.digest (Utf8.encode key)

def insert (f : Bloom) (key : String) : Bloom :=
  f.insertDigest (digest key)

def mayContain (f : Bloom) (key : String) : Bool :=
  f.containsDigest (digest key)

def insertAll (f : Bloom) (keys : List String) : Bloom :=
  keys.foldl insert f

def between (low high x : Float) : Float :=
  if x < low then low else if high < x then high else x

def naturalLogOf2 : Float := 0.6931471805599453

/-- The number of bits that keeps the rate of false positives for so many keys. -/
def bitsFor (keys : Float) (rate : Float) : UInt64 :=
  let wanted := ((-keys) * (between 1e-9 0.5 rate).log / (naturalLogOf2 * naturalLogOf2)).ceil
  max 64 wanted.toUInt64

def hashesFor (bits : UInt64) (keys : Float) : Nat :=
  (between 1 30 (bits.toFloat / keys * naturalLogOf2).round).toUInt64.toNat

theorem bitsFor_pos (keys rate : Float) : 0 < (bitsFor keys rate).toNat := by
  have h : (64 : UInt64) ≤ bitsFor keys rate := by
    unfold bitsFor
    simp only [max]
    split
    · assumption
    · exact UInt64.le_refl _
  exact Nat.lt_of_lt_of_le (by decide) (UInt64.le_iff_toNat_le.1 h)

def ofCapacity (keys : Nat) (rate : Float) : Bloom :=
  let n := (max keys 1).toFloat
  empty (bitsFor n rate) (hashesFor (bitsFor n rate) n) (bitsFor_pos n rate)

end Bloom

end AuthGateway.Revocation
