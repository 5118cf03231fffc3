import AuthGateway.Decimal.Nearest
import AuthGateway.Text.Split
import AuthGateway.Toml.Text
import AuthGateway.Toml.Value

/-!
Numbers of TOML. Digits may be grouped by single underscores, integers have 64
bits and are also written in the bases 16, 8 and 2, and other numbers have to
be finite unless they are the words for what is not.
-/
namespace AuthGateway.Toml

def isDigitOf (base : Nat) (c : Char) : Bool :=
  match Hex.value? c with
  | some d => d < base
  | none => false

/-- The digits at the front without their underscores, and what follows. -/
def digits? (base : Nat) (zeros : Bool) (cs : List Char) : Option (List Char × List Char) :=
  let isPart (c : Char) : Bool := isDigitOf base c || c == '_'
  let run := cs.takeWhile isPart
  let digits := run.filter (· != '_')
  if (Split.pieces '_' run).any List.isEmpty then none
  else if !zeros && digits.head? == some '0' && digits.length != 1 then none
  else some (digits, cs.dropWhile isPart)

def digitsValue (base : Nat) (digits : List Char) : Nat :=
  digits.foldl (fun n c => base * n + (Hex.value? c).getD 0) 0

def cutMinus : List Char → Bool × List Char
  | '-' :: rest => (true, rest)
  | cs => (false, cs)

def signed (negative : Bool) (n : Nat) : Int :=
  if negative then -(n : Int) else n

def integer? (base : Nat) (zeros : Bool) (negative : Bool) (cs : List Char) : Option Int := do
  let (digits, rest) ← digits? base zeros cs
  let n := signed negative (digitsValue base digits)
  if rest.isEmpty && Int64.minValue.toInt ≤ n && n ≤ Int64.maxValue.toInt then some n else none

/-- The exponent, of which `word` is what the text so far holds and `rest` what
follows it: a plus sign ends a word. -/
def exponent? (word rest : List Char) : Option (Int × List Char) :=
  match word with
  | [] => some (0, rest)
  | e :: inside =>
    if e = 'e' ∨ e = 'E' then
      if inside.isEmpty then
        let rest := if rest.head? = some '+' then rest.drop 1 else rest
        (integerOf false (rest.takeWhile isKeyChar)).map fun n => (n, rest.dropWhile isKeyChar)
      else
        let (negative, digits) := cutMinus inside
        (integerOf negative digits).map fun n => (n, rest)
    else none
where
  integerOf (negative : Bool) (cs : List Char) : Option Int := do
    let (digits, rest) ← digits? 10 true cs
    if rest.isEmpty then some (signed negative (digitsValue 10 digits)) else none

def real? (word : List Char) (fraction : Option (List Char)) (rest : List Char) :
    Option (Value × List Char) := do
  let (negative, unsigned) := cutMinus word
  let (whole, behind) ← digits? 10 false unsigned
  let (part, behind) ←
    match fraction with
    | none => some ([], behind)
    | some cs => if behind.isEmpty then digits? 10 true cs else none
  let (exponent, rest) ← exponent? behind rest
  let x := Decimal.toFloat (digitsValue 10 (whole ++ part)) (exponent - (part.length : Int))
  if x.isFinite then some (.real (if negative then -x else x), rest) else none

def special? (word : List Char) : Option Float :=
  if word = "inf".toList then some (1.0 / 0.0)
  else if word = "-inf".toList then some (-1.0 / 0.0)
  else if word = "nan".toList ∨ word = "-nan".toList then some (0.0 / 0.0)
  else none

def number? (cs : List Char) : Option (Value × List Char) :=
  let word := cs.takeWhile isKeyChar
  let rest := cs.dropWhile isKeyChar
  let whole (n : Option Int) : Option (Value × List Char) := n.map fun n => (.integer n, rest)
  match word with
  | [] => none
  | '0' :: 'x' :: digits => whole (integer? 16 true false digits)
  | '0' :: 'o' :: digits => whole (integer? 8 true false digits)
  | '0' :: 'b' :: digits => whole (integer? 2 true false digits)
  | _ =>
    if word.contains 'e' ∨ word.contains 'E' then real? word none rest
    else
      match rest with
      | '.' :: behind => real? word (some (behind.takeWhile isKeyChar)) (behind.dropWhile isKeyChar)
      | _ =>
        match special? word with
        | some x => some (.real x, rest)
        | none =>
          let (negative, digits) := cutMinus word
          whole (integer? 10 false negative digits)

end AuthGateway.Toml
