import AuthGateway.Json.Value
import AuthGateway.Text.Utf8
import AuthGateway.Text.Blank
import AuthGateway.Text.Dictionary

/-!
JSON texts as they are read. A text is taken apart completely before anyone
asks what it means: a string whose escapes or bytes are no Unicode text, and a
number that is no integer, are kept as such, and only a reader that needs the
text or the integer refuses them.
-/
namespace AuthGateway.Json

inductive Node where
  | null
  | bool (b : Bool)
  | number (integer? : Option Int)
  | string (text? : Option String)
  | array (items : List Node)
  | object (fields : List (Option String × Node))
deriving Inhabited

def isBlankByte (b : UInt8) : Bool :=
  b == 0x20 || b == 0x0A || b == 0x0D || b == 0x09

def skipBlanks (bytes : List UInt8) : List UInt8 :=
  bytes.dropWhile isBlankByte

def unit? (a b c d : UInt8) : Option Nat := do
  let digit (x : UInt8) := Hex.value? (Char.ofNat x.toNat)
  return 4096 * (← digit a) + 256 * (← digit b) + 16 * (← digit c) + (← digit d)

def shortEscape? (b : UInt8) : Option UInt8 :=
  if b = 0x22 ∨ b = 0x5C ∨ b = 0x2F then some b
  else if b = 0x62 then some 0x08
  else if b = 0x66 then some 0x0C
  else if b = 0x6E then some 0x0A
  else if b = 0x72 then some 0x0D
  else if b = 0x74 then some 0x09
  else none

def isHighSurrogate (n : Nat) : Bool :=
  0xD800 ≤ n && n ≤ 0xDBFF

def isLowSurrogate (n : Nat) : Bool :=
  0xDC00 ≤ n && n ≤ 0xDFFF

/-- The content of a string so far, in reverse: `none` once a surrogate has stood
alone, and apart from it a high surrogate that waits for its low one. -/
structure Content where
  bytes : Option (List UInt8)
  high : Option Nat

namespace Content

def empty : Content := ⟨some [], none⟩

/-- What the content is if no low surrogate comes. -/
def settled (c : Content) : Option (List UInt8) :=
  if c.high.isSome then none else c.bytes

def push (c : Content) (b : UInt8) : Content :=
  ⟨c.settled.map (b :: ·), none⟩

def pushChar (bytes : Option (List UInt8)) (char : Char) : Content :=
  ⟨bytes.map ((Utf8.encodeChar char).reverse ++ ·), none⟩

def pushUnit (c : Content) (n : Nat) : Content :=
  if isHighSurrogate n then ⟨c.settled, some n⟩
  else if isLowSurrogate n then
    match c.high with
    | some m => pushChar c.bytes (Char.ofNat (0x10000 + (m - 0xD800) * 0x400 + (n - 0xDC00)))
    | none => ⟨none, none⟩
  else pushChar c.settled (Char.ofNat n)

end Content

/-- The bytes behind a string's opening quote: its content, and what follows the
closing quote. -/
def stringBody (c : Content) : List UInt8 → Option (Option (List UInt8) × List UInt8)
  | [] => none
  | 0x22 :: rest => some (c.settled.map List.reverse, rest)
  | 0x5C :: 0x75 :: d0 :: d1 :: d2 :: d3 :: rest =>
    match unit? d0 d1 d2 d3 with
    | some n => stringBody (c.pushUnit n) rest
    | none => none
  | 0x5C :: b :: rest =>
    match shortEscape? b with
    | some e => stringBody (c.push e) rest
    | none => none
  | b :: rest => if b < 0x20 ∨ b = 0x5C then none else stringBody (c.push b) rest

def stringText? (bytes : List UInt8) : Option (Option String × List UInt8) :=
  (stringBody .empty bytes).map fun (content, rest) => (content.bind Utf8.decode?, rest)

def isDigitByte (b : UInt8) : Bool :=
  0x30 ≤ b && b ≤ 0x39

def digitsValue (digits : List UInt8) : Nat :=
  digits.foldl (fun n d => 10 * n + (d.toNat - 48)) 0

def afterDigits? (bytes : List UInt8) : Option (List UInt8) :=
  match bytes with
  | b :: rest => if isDigitByte b then some (rest.dropWhile isDigitByte) else none
  | [] => none

/-- What follows an optional fraction, and whether there was one. -/
def fraction? (bytes : List UInt8) : Option (Bool × List UInt8) :=
  match bytes with
  | 0x2E :: rest => (afterDigits? rest).map (true, ·)
  | _ => some (false, bytes)

def exponent? (bytes : List UInt8) : Option (Bool × List UInt8) :=
  match bytes with
  | e :: rest =>
    if e = 0x65 ∨ e = 0x45 then
      match rest with
      | s :: digits =>
        if s = 0x2B ∨ s = 0x2D then (afterDigits? digits).map (true, ·)
        else (afterDigits? rest).map (true, ·)
      | [] => none
    else some (false, bytes)
  | [] => some (false, bytes)

/-- A number without its sign: an integer part that starts with zero only if it
is zero, then a fraction and an exponent. Minus zero is no integer. -/
def unsigned? (negative : Bool) (bytes : List UInt8) : Option (Option Int × List UInt8) := do
  let digits := bytes.takeWhile isDigitByte
  let rest := bytes.dropWhile isDigitByte
  if digits.isEmpty ∨ (digits.head? = some 0x30 ∧ digits.length ≠ 1) then none
  else
    let (hasFraction, rest) ← fraction? rest
    let (hasExponent, rest) ← exponent? rest
    let n := digitsValue digits
    if hasFraction ∨ hasExponent ∨ (negative ∧ n = 0) then return (none, rest)
    else return (some (if negative then -(n : Int) else n), rest)

mutual

/-- Reads a value. Each step takes at least one byte, so that as many steps as
there are bytes are enough. -/
def value? : Nat → List UInt8 → Option (Node × List UInt8)
  | 0, _ => none
  | n + 1, bytes =>
    match skipBlanks bytes with
    | 0x6E :: 0x75 :: 0x6C :: 0x6C :: rest => some (.null, rest)
    | 0x74 :: 0x72 :: 0x75 :: 0x65 :: rest => some (.bool true, rest)
    | 0x66 :: 0x61 :: 0x6C :: 0x73 :: 0x65 :: rest => some (.bool false, rest)
    | 0x22 :: rest => (stringText? rest).map fun (s, behind) => (.string s, behind)
    | 0x2D :: rest => (unsigned? true rest).map fun (i, behind) => (.number i, behind)
    | 0x5B :: rest =>
      match skipBlanks rest with
      | 0x5D :: behind => some (.array [], behind)
      | inside => (items? n inside).map fun (items, behind) => (.array items, behind)
    | 0x7B :: rest =>
      match skipBlanks rest with
      | 0x7D :: behind => some (.object [], behind)
      | inside => (fields? n inside).map fun (fields, behind) => (.object fields, behind)
    | other => (unsigned? false other).map fun (i, behind) => (.number i, behind)

def items? : Nat → List UInt8 → Option (List Node × List UInt8)
  | 0, _ => none
  | n + 1, bytes => do
    let (v, rest) ← value? n bytes
    match skipBlanks rest with
    | 0x5D :: behind => some ([v], behind)
    | 0x2C :: more => (items? n more).map fun (vs, behind) => (v :: vs, behind)
    | _ => none

def fields? : Nat → List UInt8 → Option (List (Option String × Node) × List UInt8)
  | 0, _ => none
  | n + 1, bytes =>
    match skipBlanks bytes with
    | 0x22 :: quoted => do
      let (name, rest) ← stringText? quoted
      match skipBlanks rest with
      | 0x3A :: afterColon => do
        let (v, rest) ← value? n afterColon
        match skipBlanks rest with
        | 0x7D :: behind => some ([(name, v)], behind)
        | 0x2C :: more => (fields? n more).map fun (fs, behind) => ((name, v) :: fs, behind)
        | _ => none
      | _ => none
    | _ => none

end

def parse? (bytes : List UInt8) : Option Node :=
  match value? (bytes.length + 1) bytes with
  | some (v, rest) => if (skipBlanks rest).isEmpty then some v else none
  | none => none

/-- The text of a well-formed value as it stands, without the white space around it. -/
def rawText? (bytes : List UInt8) : Option String :=
  (parse? bytes).bind fun _ => Utf8.decode? (Blank.trimBy isBlankByte bytes)

namespace Node

def text? : Node → Option String
  | .string s => s
  | _ => none

def int64? : Node → Option Int64
  | .number (some n) => if (Int64.ofInt n).toInt = n then some (Int64.ofInt n) else none
  | _ => none

def textFields? : List (Option String × Node) → Option (List (String × String))
  | [] => some []
  | (k, v) :: rest => do return (← k, ← v.text?) :: (← textFields? rest)

/-- An object whose values are texts; of several values of a name the last counts. -/
def dictionary? : Node → Option (Dictionary String)
  | .object fields => (textFields? fields).map Dictionary.ofList
  | _ => none

end Node

/-- The named values of a record, as far as they are present. -/
structure Record where
  /-- The record was written as a list of its values in order. -/
  ordered : Bool
  values : List (String × Node)

/-- Keeps the fields of the given names; fails on a name that is no text and on
a repeated field. -/
def keepFields? (names : List String) :
    List (String × Node) → List (Option String × Node) → Option (List (String × Node))
  | kept, [] => some kept
  | _, (none, _) :: _ => none
  | kept, (some k, v) :: rest =>
    if names.contains k then
      if (kept.lookup k).isSome then none else keepFields? names ((k, v) :: kept) rest
    else keepFields? names kept rest

/-- A record with the given fields: an object, in which other fields are
ignored, or a list of no more values than there are fields. -/
def Node.record? (names : List String) : Node → Option Record
  | .array items => if items.length ≤ names.length then some ⟨true, names.zip items⟩ else none
  | .object fields => (keepFields? names [] fields).map fun kept => ⟨false, kept⟩
  | _ => none

namespace Record

variable {α : Type}

def required? (r : Record) (name : String) (read : Node → Option α) : Option α :=
  (r.values.lookup name).bind read

/-- A field that may be null or, in an object, absent. -/
def optional? (r : Record) (name : String) (read : Node → Option α) : Option (Option α) :=
  match r.values.lookup name with
  | none => if r.ordered then none else some none
  | some .null => some none
  | some v => (read v).map some

def default? (r : Record) (name : String) (default : α) (read : Node → Option α) : Option α :=
  match r.values.lookup name with
  | none => some default
  | some v => read v

end Record

end AuthGateway.Json
