/-!
Base64 in its two alphabets. Reading is strict: the digits of a last, partial
group leave no unused bit set, the padded form has its padding exactly, and
the plain form has none, so that every byte string has one text in each form.
-/
namespace AuthGateway.Base64

/-- The two digits in which the alphabets differ. -/
structure Alphabet where
  digit62 : Char
  digit63 : Char

def standard : Alphabet := ⟨'+', '/'⟩

def urlSafe : Alphabet := ⟨'-', '_'⟩

def Alphabet.digit (a : Alphabet) (n : Nat) : Char :=
  if n < 26 then Char.ofNat (65 + n)
  else if n < 52 then Char.ofNat (71 + n)
  else if n < 62 then Char.ofNat (n - 4)
  else if n = 62 then a.digit62
  else a.digit63

def Alphabet.value? (a : Alphabet) (c : Char) : Option Nat :=
  if 'A' ≤ c ∧ c ≤ 'Z' then some (c.toNat - 65)
  else if 'a' ≤ c ∧ c ≤ 'z' then some (c.toNat - 71)
  else if '0' ≤ c ∧ c ≤ '9' then some (c.toNat + 4)
  else if c = a.digit62 then some 62
  else if c = a.digit63 then some 63
  else none

/-- Three bytes to four digits; `fill` stands where the last group has no digit. -/
def encodeWith (a : Alphabet) (fill : List Char) : List UInt8 → List Char
  | [] => []
  | [x] =>
    a.digit (x.toNat / 4) :: a.digit (x.toNat % 4 * 16) :: (fill ++ fill)
  | [x, y] =>
    a.digit (x.toNat / 4) :: a.digit (x.toNat % 4 * 16 + y.toNat / 16) ::
      a.digit (y.toNat % 16 * 4) :: fill
  | x :: y :: z :: rest =>
    a.digit (x.toNat / 4) :: a.digit (x.toNat % 4 * 16 + y.toNat / 16) ::
      a.digit (y.toNat % 16 * 4 + z.toNat / 64) :: a.digit (z.toNat % 64) ::
      encodeWith a fill rest

/-- The byte of the last two digits, if they end in unused bits that are zero. -/
def lastTwo? (a : Alphabet) (c d : Char) : Option (List UInt8) := do
  let m ← a.value? c
  let n ← a.value? d
  if n % 16 = 0 then some [UInt8.ofNat (m * 4 + n / 16)] else none

/-- The two bytes of the last three digits, if they end in unused bits that are zero. -/
def lastThree? (a : Alphabet) (c d e : Char) : Option (List UInt8) := do
  let m ← a.value? c
  let n ← a.value? d
  let o ← a.value? e
  if o % 4 = 0 then some [UInt8.ofNat (m * 4 + n / 16), UInt8.ofNat (n % 16 * 16 + o / 4)]
  else none

def four? (a : Alphabet) (c d e f : Char) : Option (List UInt8) := do
  let m ← a.value? c
  let n ← a.value? d
  let o ← a.value? e
  let p ← a.value? f
  return [UInt8.ofNat (m * 4 + n / 16), UInt8.ofNat (n % 16 * 16 + o / 4),
    UInt8.ofNat (o % 4 * 64 + p)]

/-- Reads the form without padding. -/
def decodePlain? (a : Alphabet) : List Char → Option (List UInt8)
  | [] => some []
  | [_] => none
  | [c, d] => lastTwo? a c d
  | [c, d, e] => lastThree? a c d e
  | c :: d :: e :: f :: rest => do
    let bytes ← four? a c d e f
    return bytes ++ (← decodePlain? a rest)

/-- Reads the form whose last group is filled up with equals signs. -/
def decodePadded? (a : Alphabet) : List Char → Option (List UInt8)
  | [] => some []
  | [c, d, '=', '='] => lastTwo? a c d
  | [c, d, e, '='] => lastThree? a c d e
  | c :: d :: e :: f :: rest => do
    let bytes ← four? a c d e f
    return bytes ++ (← decodePadded? a rest)
  | _ => none

/-- The URL-safe form without padding. -/
def encodeUrl (bytes : List UInt8) : String :=
  String.ofList (encodeWith urlSafe [] bytes)

/-- The standard form with padding. -/
def encodeStandard (bytes : List UInt8) : String :=
  String.ofList (encodeWith standard ['='] bytes)

end AuthGateway.Base64
