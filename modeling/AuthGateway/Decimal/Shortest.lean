import AuthGateway.Decimal.Digits

/-!
Decimal text of numbers. A binary floating-point number is written with the
fewest digits that read back as it, the nearest such digits to its value; a
format says where an exponent is written and how a whole number ends.
-/
namespace AuthGateway.Decimal

/-- A finite, nonzero magnitude: `significand * 2 ^ exponent`. The gap below it
is half the gap above when `narrow` holds. -/
structure Binary where
  significand : Nat
  exponent : Int
  narrow : Bool

def firstBit : Nat := 0x10000000000000

def infinityBits : Nat := 0x7FF * firstBit

def signBit : Nat := 0x800 * firstBit

def Binary.ofBits (bits : Nat) : Binary :=
  let fraction : Nat := bits % firstBit
  let biased : Nat := bits / firstBit
  if biased = 0 then ⟨fraction, -1074, false⟩
  else ⟨firstBit + fraction, (biased : Int) - 1075, fraction = 0 ∧ 1 < biased⟩

structure Ratio where
  num : Nat
  den : Nat

def Ratio.times2 (r : Ratio) (e : Int) : Ratio :=
  if 0 ≤ e then ⟨r.num <<< e.toNat, r.den⟩ else ⟨r.num, r.den <<< (-e).toNat⟩

def Ratio.scaled2 (n : Nat) (e : Int) : Ratio :=
  Ratio.times2 ⟨n, 1⟩ e

def Ratio.times10 (r : Ratio) (e : Int) : Ratio :=
  if 0 ≤ e then ⟨r.num * Nat.pow 10 e.toNat, r.den⟩ else ⟨r.num, r.den * Nat.pow 10 (-e).toNat⟩

/-- The nearest natural number, the even one on a tie. -/
def Ratio.rounded (r : Ratio) : Nat :=
  let below := r.num / r.den
  let twice := 2 * (r.num % r.den)
  if twice < r.den then below else if r.den < twice then below + 1 else below + below % 2

/-- How many places a ratio below one moves until it is at least one, among the
next so many places. -/
def placesToOne (r : Ratio) (places : Nat) : Nat → Nat
  | 0 => places
  | n + 1 => if r.den ≤ r.num then places else placesToOne ⟨r.num * 10, r.den⟩ (places + 1) n

def leadingExponent (r : Ratio) : Int :=
  if r.den ≤ r.num then ((natChars (r.num / r.den)).length : Int) - 1
  else -(placesToOne r 0 400 : Int)

/-- Whether `c` on the grid of step `10 ^ e` lies among the numbers that round
to `b`; the ends of that interval do if the significand is even. -/
def readsBack (b : Binary) (c : Nat) (e : Int) : Bool :=
  let four := 4 * b.significand
  let low := Ratio.times10 (Ratio.scaled2 (four - if b.narrow then 1 else 2) (b.exponent - 2)) (-e)
  let high := Ratio.times10 (Ratio.scaled2 (four + 2) (b.exponent - 2)) (-e)
  if b.significand % 2 = 0 then low.num ≤ c * low.den && c * high.den ≤ high.num
  else low.num < c * low.den && c * high.den < high.num

/-- The nearest coefficient of the grid of step `10 ^ e` that reads back, even
on a tie. -/
def onGrid? (b : Binary) (e : Int) : Option Nat :=
  let r := Ratio.times10 (Ratio.scaled2 b.significand b.exponent) (-e)
  let below := r.num / r.den
  let nearer := r.rounded
  let other := if nearer = below then below + 1 else below
  if readsBack b nearer e then some nearer
  else if readsBack b other e then some other
  else none

def firstHit (b : Binary) (e : Int) : Nat → Nat × Int
  | 0 => ((onGrid? b e).getD 0, e)
  | n + 1 =>
    match onGrid? b e with
    | some c => (c, e)
    | none => firstHit b (e - 1) n

/-- Moves zeros at the end of a coefficient into the exponent. -/
def trimZeros (c : Nat) (e : Int) : Nat → Nat × Int
  | 0 => (c, e)
  | n + 1 => if c % 10 = 0 ∧ c ≠ 0 then trimZeros (c / 10) (e + 1) n else (c, e)

def shortest (b : Binary) : Nat × Int :=
  let hit := firstHit b (leadingExponent (Ratio.scaled2 b.significand b.exponent)) 17
  trimZeros hit.1 hit.2 20

/-- Where numbers are written without an exponent, by the exponent of their
first digit, and whether a whole number ends in a zero after the point. -/
structure Format where
  positional : Int → Bool
  wholeFraction : Bool

/-- Digits with the point behind the first `point` of them. -/
def positionalChars (format : Format) (digits : List Char) (point : Int) : List Char :=
  if point ≤ 0 then '0' :: '.' :: (List.replicate (-point).toNat '0' ++ digits)
  else
    let whole := digits.take point.toNat ++ List.replicate (point.toNat - digits.length) '0'
    let fraction := digits.drop point.toNat
    if fraction.isEmpty then whole ++ (if format.wholeFraction then ['.', '0'] else [])
    else whole ++ '.' :: fraction

/-- An exponent, which always has a sign. -/
def signedChars (exponent : Int) : List Char :=
  if exponent < 0 then integerChars exponent else '+' :: integerChars exponent

def exponentChars (digits : List Char) (exponent : Int) : List Char :=
  match digits with
  | [] => []
  | [d] => d :: 'e' :: signedChars exponent
  | d :: rest => d :: '.' :: (rest ++ 'e' :: signedChars exponent)

def magnitudeChars (format : Format) (b : Binary) : List Char :=
  let (c, e) := shortest b
  let digits := natChars c
  let first := e + (digits.length : Int) - 1
  if format.positional first then positionalChars format digits (first + 1)
  else exponentChars digits first

def chars (format : Format) (x : Float) : List Char :=
  let bits := x.toBits.toNat
  let sign := if bits < signBit then [] else ['-']
  let magnitude := bits % signBit
  if magnitude = 0 then sign ++ positionalChars format ['0'] 1
  else if magnitude < infinityBits then sign ++ magnitudeChars format (Binary.ofBits magnitude)
  else if magnitude = infinityBits then sign ++ ['i', 'n', 'f']
  else ['N', 'a', 'N']

/-- Positional throughout, and a whole number has no point. -/
def plainFormat : Format := ⟨fun _ => true, false⟩

end AuthGateway.Decimal
