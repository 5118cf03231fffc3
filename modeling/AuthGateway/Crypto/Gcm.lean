import AuthGateway.Crypto.Aes

/-!
AES-256 in Galois/counter mode with a nonce of twelve bytes: the text is
combined with a stream of encrypted counter blocks, and a tag of sixteen bytes
authenticates the result together with data that is not encrypted.
-/
namespace AuthGateway.Gcm

/-- An element of the field with 2^128 elements; the constant term is the top
bit of the first half. -/
structure Element where
  hi : UInt64
  lo : UInt64
deriving DecidableEq

namespace Element

def zero : Element := ⟨0, 0⟩

def add (a b : Element) : Element :=
  ⟨a.hi ^^^ b.hi, a.lo ^^^ b.lo⟩

/-- The product with x modulo x^128 + x^7 + x^2 + x + 1. -/
def timesX (a : Element) : Element :=
  let hi := (a.hi >>> 1) ^^^ (if a.lo &&& 1 = 0 then 0 else 0xE100000000000000)
  ⟨hi, (a.lo >>> 1) ||| (a.hi <<< 63)⟩

/-- Adds the multiples of `b` for the next bits of a half of the first factor,
top bit first, and goes on with `b` so far multiplied. -/
def addMultiples (half : UInt64) (sum b : Element) : Nat → Element × Element
  | 0 => (sum, b)
  | n + 1 =>
    addMultiples (half <<< 1) (if half &&& 0x8000000000000000 = 0 then sum else sum.add b)
      b.timesX n

def mul (a b : Element) : Element :=
  let (sum, c) := addMultiples a.hi zero b 64
  (addMultiples a.lo sum c 64).1

def word (bytes : List UInt8) : UInt64 :=
  bytes.foldl (fun n b => (n <<< 8) ||| b.toUInt64) 0

def ofList (bytes : List UInt8) : Element :=
  let block := (Aes.Block.ofList bytes).toList
  ⟨word (block.take 8), word (block.drop 8)⟩

def wordBytes (w : UInt64) : List UInt8 :=
  [(w >>> 56).toUInt8, (w >>> 48).toUInt8, (w >>> 40).toUInt8, (w >>> 32).toUInt8,
    (w >>> 24).toUInt8, (w >>> 16).toUInt8, (w >>> 8).toUInt8, w.toUInt8]

def toList (a : Element) : List UInt8 :=
  wordBytes a.hi ++ wordBytes a.lo

theorem length_toList (a : Element) : a.toList.length = 16 := rfl

end Element

/-- Takes in some bytes, in blocks of sixteen with zeros behind the last, for as
many blocks as are asked for. -/
def hashBlocks (h acc : Element) (bytes : List UInt8) : Nat → Element
  | 0 => acc
  | n + 1 => hashBlocks h (((acc.add (Element.ofList (bytes.take 16)))).mul h) (bytes.drop 16) n

def hashBytes (h acc : Element) (bytes : List UInt8) : Element :=
  hashBlocks h acc bytes ((bytes.length + 15) / 16)

/-- The hash of the authenticated data and the encrypted text with their lengths. -/
def hash (h : Element) (aad text : List UInt8) : Element :=
  let lengths : Element := ⟨UInt64.ofNat (8 * aad.length), UInt64.ofNat (8 * text.length)⟩
  ((hashBytes h (hashBytes h Element.zero aad) text).add lengths).mul h

def counterBlock (nonce : Octets 12) (count : UInt32) : Aes.Block :=
  Aes.Block.ofList (nonce.toList ++
    [(count >>> 24).toUInt8, (count >>> 16).toUInt8, (count >>> 8).toUInt8, count.toUInt8])

def applyStream (stream : UInt32 → List UInt8) (count : UInt32) : List UInt8 → List UInt8
  | [] => []
  | b :: rest =>
    List.zipWith (· ^^^ ·) ((b :: rest).take 16) (stream count) ++
      applyStream stream (count + 1) (rest.drop 15)
termination_by text => text.length
-- each step takes a block, or all that is left
decreasing_by
  simp only [List.length_drop, List.length_cons]
  omega

/-- What a key and a nonce fix: the encrypted counter blocks and the hash key. -/
structure Cipher where
  stream : UInt32 → List UInt8
  hashKey : Element

def cipher (key : Octets 32) (nonce : Octets 12) : Cipher :=
  let keys := Aes.schedule key
  { stream := fun count => (Aes.encrypt keys (counterBlock nonce count)).toList
    hashKey := Element.ofList (Aes.encrypt keys (Aes.Block.ofList [])).toList }

/-- Encryption and decryption are the same combination with the stream. -/
def crypt (key : Octets 32) (nonce : Octets 12) (text : List UInt8) : List UInt8 :=
  applyStream (cipher key nonce).stream 2 text

def tag (key : Octets 32) (nonce : Octets 12) (aad text : List UInt8) : Octets 16 :=
  let c := cipher key nonce
  let sum := (hash c.hashKey aad text).add (Element.ofList (c.stream 1))
  ⟨sum.toList, sum.length_toList⟩

def encrypt (key : Octets 32) (nonce : Octets 12) (aad plaintext : List UInt8) :
    List UInt8 × Octets 16 :=
  let text := crypt key nonce plaintext
  (text, tag key nonce aad text)

/-- A block of zeros under a key and a nonce of zeros, as published with the mode. -/
example : encrypt ⟨List.replicate 32 0, rfl⟩ ⟨List.replicate 12 0, rfl⟩ []
    (List.replicate 16 0) =
      ([0xCE, 0xA7, 0x40, 0x3D, 0x4D, 0x60, 0x6B, 0x6E, 0x07, 0x4E, 0xC5, 0xD3, 0xBA, 0xF3,
          0x9D, 0x18],
        ⟨[0xD0, 0xD1, 0xC8, 0xA7, 0x99, 0x99, 0x6B, 0xF0, 0x26, 0x5B, 0x98, 0xB5, 0xD4, 0x8A,
          0xB9, 0x19], rfl⟩) := by
  decide +kernel

/-- Gives the plaintext only under the right tag. -/
def decrypt? (key : Octets 32) (nonce : Octets 12) (aad text : List UInt8) (t : Octets 16) :
    Option (List UInt8) :=
  if tag key nonce aad text = t then some (crypt key nonce text) else none

end AuthGateway.Gcm
