/-!
UTF-8. Bytes are read into characters and malformed parts, a malformed part
being the longest start of a character that goes no further. Strict decoding
refuses such parts and lossy decoding shows each as the replacement character.
-/
namespace AuthGateway.Utf8

def encodeChar (c : Char) : List UInt8 :=
  let n := c.toNat
  if n < 0x80 then [UInt8.ofNat n]
  else if n < 0x800 then [UInt8.ofNat (0xC0 + n / 0x40), UInt8.ofNat (0x80 + n % 0x40)]
  else if n < 0x10000 then
    [UInt8.ofNat (0xE0 + n / 0x1000), UInt8.ofNat (0x80 + n / 0x40 % 0x40),
      UInt8.ofNat (0x80 + n % 0x40)]
  else
    [UInt8.ofNat (0xF0 + n / 0x40000), UInt8.ofNat (0x80 + n / 0x1000 % 0x40),
      UInt8.ofNat (0x80 + n / 0x40 % 0x40), UInt8.ofNat (0x80 + n % 0x40)]

def encodeChars (cs : List Char) : List UInt8 :=
  cs.flatMap encodeChar

def encode (s : String) : List UInt8 :=
  encodeChars s.toList

def isContinuation (b : UInt8) : Bool :=
  0x80 ≤ b && b ≤ 0xBF

/-- The second bytes that may follow the lead of a three-byte character: no
overlong form and no surrogate. -/
def isSecondOfThree (lead second : UInt8) : Bool :=
  (if lead = 0xE0 then 0xA0 else 0x80) ≤ second && second ≤ (if lead = 0xED then 0x9F else 0xBF)

/-- The second bytes that may follow the lead of a four-byte character: no
overlong form and nothing past the last code point. -/
def isSecondOfFour (lead second : UInt8) : Bool :=
  (if lead = 0xF0 then 0x90 else 0x80) ≤ second && second ≤ (if lead = 0xF4 then 0x8F else 0xBF)

/-- The character of a code point given as its lead bits followed by groups of six. -/
def join (lead : Nat) (groups : List UInt8) : Char :=
  Char.ofNat (groups.foldl (fun n b => n * 0x40 + (b.toNat - 0x80)) lead)

/-- Reads the remaining bytes behind the parts already read, which are kept in
reverse. `none` is a malformed part. -/
def scan (done : List (Option Char)) : List UInt8 → List (Option Char)
  | [] => done.reverse
  | b0 :: r0 =>
    if b0 < 0x80 then scan (some (Char.ofNat b0.toNat) :: done) r0
    else if 0xC2 ≤ b0 && b0 ≤ 0xDF then
      match r0 with
      | [] => (none :: done).reverse
      | b1 :: r1 =>
        -- a byte that does not belong to the lead is read once more, as the start of something else
        if isContinuation b1 then scan (some (join (b0.toNat - 0xC0) [b1]) :: done) r1
        else scan (none :: done) (b1 :: r1)
    else if 0xE0 ≤ b0 && b0 ≤ 0xEF then
      match r0 with
      | [] => (none :: done).reverse
      | b1 :: r1 =>
        if isSecondOfThree b0 b1 then
          match r1 with
          | [] => (none :: done).reverse
          | b2 :: r2 =>
            if isContinuation b2 then scan (some (join (b0.toNat - 0xE0) [b1, b2]) :: done) r2
            else scan (none :: done) (b2 :: r2)
        else scan (none :: done) (b1 :: r1)
    else if 0xF0 ≤ b0 && b0 ≤ 0xF4 then
      match r0 with
      | [] => (none :: done).reverse
      | b1 :: r1 =>
        if isSecondOfFour b0 b1 then
          match r1 with
          | [] => (none :: done).reverse
          | b2 :: r2 =>
            if isContinuation b2 then
              match r2 with
              | [] => (none :: done).reverse
              | b3 :: r3 =>
                if isContinuation b3 then
                  scan (some (join (b0.toNat - 0xF0) [b1, b2, b3]) :: done) r3
                else scan (none :: done) (b3 :: r3)
            else scan (none :: done) (b2 :: r2)
        else scan (none :: done) (b1 :: r1)
    else scan (none :: done) r0

def parts (bytes : List UInt8) : List (Option Char) :=
  scan [] bytes

def decodeChars? (bytes : List UInt8) : Option (List Char) :=
  let ps := parts bytes
  if ps.all Option.isSome then some (ps.filterMap id) else none

def decode? (bytes : List UInt8) : Option String :=
  (decodeChars? bytes).map String.ofList

def decodeLossyChars (bytes : List UInt8) : List Char :=
  (parts bytes).map (Option.getD · '\uFFFD')

def decodeLossy (bytes : List UInt8) : String :=
  String.ofList (decodeLossyChars bytes)

def size (s : String) : Nat :=
  (encode s).length

end AuthGateway.Utf8
