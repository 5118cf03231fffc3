import AuthGateway.Text.Octets

/-!
AES with 256-bit keys, encryption only. A state is sixteen bytes, column by
column; bytes are polynomials over two elements modulo x^8 + x^4 + x^3 + x + 1.
-/
namespace AuthGateway.Aes

/-- The product with x. -/
def double (b : UInt8) : UInt8 :=
  if b &&& 0x80 = 0 then b <<< 1 else (b <<< 1) ^^^ 0x1B

def multiplyBits (a b : UInt8) : Nat → UInt8
  | 0 => 0
  | n + 1 => (if b &&& 1 = 0 then 0 else a) ^^^ multiplyBits (double a) (b >>> 1) n

def multiply (a b : UInt8) : UInt8 :=
  multiplyBits a b 8

/-- The inverse, which is the 254th power; zero goes to zero. -/
def inverse (a : UInt8) : UInt8 :=
  let a2 := multiply a a
  let a4 := multiply a2 a2
  let a8 := multiply a4 a4
  let a16 := multiply a8 a8
  let a32 := multiply a16 a16
  let a64 := multiply a32 a32
  let a128 := multiply a64 a64
  [a4, a8, a16, a32, a64, a128].foldl multiply a2

def rotateLeft (b n : UInt8) : UInt8 :=
  (b <<< n) ||| (b >>> (8 - n))

def substituteByte (b : UInt8) : UInt8 :=
  let i := inverse b
  i ^^^ rotateLeft i 1 ^^^ rotateLeft i 2 ^^^ rotateLeft i 3 ^^^ rotateLeft i 4 ^^^ 0x63

def substitutions : Vector UInt8 256 :=
  Vector.ofFn fun i => substituteByte (UInt8.ofNat i.val)

def substitute (b : UInt8) : UInt8 :=
  substitutions.get ⟨b.toNat, b.toNat_lt⟩

/-- Four bytes: a column of the state or a word of the key. -/
structure Column where
  b0 : UInt8
  b1 : UInt8
  b2 : UInt8
  b3 : UInt8
deriving DecidableEq

namespace Column

def xor (a b : Column) : Column :=
  ⟨a.b0 ^^^ b.b0, a.b1 ^^^ b.b1, a.b2 ^^^ b.b2, a.b3 ^^^ b.b3⟩

def substituteAll (a : Column) : Column :=
  ⟨substitute a.b0, substitute a.b1, substitute a.b2, substitute a.b3⟩

def rotate (a : Column) : Column :=
  ⟨a.b1, a.b2, a.b3, a.b0⟩

/-- The product with the fixed polynomial 3y^3 + y^2 + y + 2. -/
def mix (a : Column) : Column :=
  let all := a.b0 ^^^ a.b1 ^^^ a.b2 ^^^ a.b3
  ⟨a.b0 ^^^ all ^^^ double (a.b0 ^^^ a.b1), a.b1 ^^^ all ^^^ double (a.b1 ^^^ a.b2),
    a.b2 ^^^ all ^^^ double (a.b2 ^^^ a.b3), a.b3 ^^^ all ^^^ double (a.b3 ^^^ a.b0)⟩

end Column

/-- Four columns: a state or a round key. -/
structure Block where
  c0 : Column
  c1 : Column
  c2 : Column
  c3 : Column
deriving DecidableEq

namespace Block

def xor (a b : Block) : Block :=
  ⟨a.c0.xor b.c0, a.c1.xor b.c1, a.c2.xor b.c2, a.c3.xor b.c3⟩

/-- Substitutes every byte and moves row i by i columns. -/
def substituteAndShift (a : Block) : Block :=
  ⟨⟨substitute a.c0.b0, substitute a.c1.b1, substitute a.c2.b2, substitute a.c3.b3⟩,
    ⟨substitute a.c1.b0, substitute a.c2.b1, substitute a.c3.b2, substitute a.c0.b3⟩,
    ⟨substitute a.c2.b0, substitute a.c3.b1, substitute a.c0.b2, substitute a.c1.b3⟩,
    ⟨substitute a.c3.b0, substitute a.c0.b1, substitute a.c1.b2, substitute a.c2.b3⟩⟩

def mix (a : Block) : Block :=
  ⟨a.c0.mix, a.c1.mix, a.c2.mix, a.c3.mix⟩

def toList (a : Block) : List UInt8 :=
  [a.c0.b0, a.c0.b1, a.c0.b2, a.c0.b3, a.c1.b0, a.c1.b1, a.c1.b2, a.c1.b3,
    a.c2.b0, a.c2.b1, a.c2.b2, a.c2.b3, a.c3.b0, a.c3.b1, a.c3.b2, a.c3.b3]

theorem length_toList (a : Block) : a.toList.length = 16 := rfl

def ofList (bytes : List UInt8) : Block :=
  match bytes ++ List.replicate 16 0 with
  | a :: b :: c :: d :: e :: f :: g :: h :: i :: j :: k :: l :: m :: n :: o :: p :: _ =>
    ⟨⟨a, b, c, d⟩, ⟨e, f, g, h⟩, ⟨i, j, k, l⟩, ⟨m, n, o, p⟩⟩
  | _ => ⟨⟨0, 0, 0, 0⟩, ⟨0, 0, 0, 0⟩, ⟨0, 0, 0, 0⟩, ⟨0, 0, 0, 0⟩⟩

end Block

/-- The next four key words, from the four before the last four and the last
word as the schedule transforms it. -/
def nextKey (old : Block) (last : Column) : Block :=
  let c0 := old.c0.xor last
  let c1 := old.c1.xor c0
  let c2 := old.c2.xor c1
  let c3 := old.c3.xor c2
  ⟨c0, c1, c2, c3⟩

def expand (even odd : Block) (constant : UInt8) : Nat → List Block
  | 0 => []
  | n + 1 =>
    let e := nextKey even (odd.c3.rotate.substituteAll.xor ⟨constant, 0, 0, 0⟩)
    let o := nextKey odd e.c3.substituteAll
    e :: o :: expand e o (double constant) n

def schedule (key : Octets 32) : Block × List Block :=
  let even := Block.ofList (key.toList.take 16)
  let odd := Block.ofList (key.toList.drop 16)
  (even, odd :: (expand even odd 1 7).take 13)

/-- The rounds; the last one does not mix the columns. -/
def runRounds (state : Block) : List Block → Block
  | [] => state
  | [k] => state.substituteAndShift.xor k
  | k :: ks => runRounds (state.substituteAndShift.mix.xor k) ks

def encrypt (keys : Block × List Block) (block : Block) : Block :=
  runRounds (block.xor keys.1) keys.2

end AuthGateway.Aes
