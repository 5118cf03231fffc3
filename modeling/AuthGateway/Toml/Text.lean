import AuthGateway.Text.Ascii
import AuthGateway.Text.Octets

/-!
Strings and keys of TOML. There are basic strings, in which a backslash
escapes, and literal strings; both are written on one line, or between triple
quotes over several.
-/
namespace AuthGateway.Toml

def isSpace (c : Char) : Bool :=
  c == ' ' || c == '\t'

def isTextChar (c : Char) : Bool :=
  c == '\t' || (0x20 ≤ c.toNat && c.toNat != 0x7F)

/-- May stand in a key without quotes, and in a number. -/
def isKeyChar (c : Char) : Bool :=
  Ascii.isAlphanumeric c || c == '-' || c == '_'

def codePoint? (digits : Nat) (cs : List Char) : Option (Char × List Char) := do
  let ds ← (cs.take digits).mapM Hex.value?
  let n := ds.foldl (fun n d => 16 * n + d) 0
  if ds.length = digits ∧ n.isValidChar then some (Char.ofNat n, cs.drop digits) else none

/-- What a backslash at the end of a line joins the text with: the next line
that has text. -/
def nextLine? (cs : List Char) : Option (List Char) :=
  match cs.dropWhile isSpace with
  | '\n' :: rest => some (rest.dropWhile fun c => isSpace c || c == '\n')
  | _ => none

def escape? (multiline : Bool) : List Char → Option (List Char × List Char)
  | '"' :: rest => some (['"'], rest)
  | '\\' :: rest => some (['\\'], rest)
  | 'b' :: rest => some (['\x08'], rest)
  | 'f' :: rest => some (['\x0c'], rest)
  | 'n' :: rest => some (['\n'], rest)
  | 'r' :: rest => some (['\r'], rest)
  | 't' :: rest => some (['\t'], rest)
  | 'u' :: rest => (codePoint? 4 rest).map fun (c, behind) => ([c], behind)
  | 'U' :: rest => (codePoint? 8 rest).map fun (c, behind) => ([c], behind)
  | rest => if multiline then (nextLine? rest).map fun behind => ([], behind) else none

/-- The end of a text between triple quotes. Up to two more quotes belong to the
text. -/
def ending? (quote : Char) (cs : List Char) : Option (List Char × List Char) :=
  let quotes := cs.takeWhile (· == quote)
  if quotes.length < 3 then none
  else some (quotes.take (min (quotes.length - 3) 2), cs.drop (min quotes.length 5))

/-- Reads a text up to its end. Every step takes a character. -/
def body? (quote : Char) (multiline : Bool) : Nat → List Char → Option (List Char × List Char)
  | 0, _ => none
  | _, [] => none
  | n + 1, c :: rest =>
    let next (cs behind : List Char) : Option (List Char × List Char) :=
      (body? quote multiline n behind).map fun (text, left) => (cs ++ text, left)
    if c = quote then
      if multiline then
        match ending? quote (c :: rest) with
        | some found => some found
        | none => next [c] rest
      else some ([], rest)
    else if c = '\\' ∧ quote = '"' then
      match escape? multiline rest with
      | some (cs, behind) => next cs behind
      | none => none
    else if isTextChar c ∨ (multiline ∧ c = '\n') then next [c] rest
    else none

def quotedLine? (quote : Char) (cs : List Char) : Option (String × List Char) :=
  (body? quote false (cs.length + 1) cs).map fun (text, rest) => (String.ofList text, rest)

/-- A string over several lines, behind its first quotes; a line end right there
does not count. -/
def quotedLines? (quote : Char) (cs : List Char) : Option (String × List Char) :=
  let cs := if cs.head? = some '\n' then cs.drop 1 else cs
  (body? quote true (cs.length + 1) cs).map fun (text, rest) => (String.ofList text, rest)

def string? : List Char → Option (String × List Char)
  | '"' :: '"' :: '"' :: rest => quotedLines? '"' rest
  | '\'' :: '\'' :: '\'' :: rest => quotedLines? '\'' rest
  | '"' :: rest => quotedLine? '"' rest
  | '\'' :: rest => quotedLine? '\'' rest
  | _ => none

def keyPart? : List Char → Option (String × List Char)
  | '"' :: '"' :: '"' :: _ => none
  | '\'' :: '\'' :: '\'' :: _ => none
  | '"' :: rest => quotedLine? '"' rest
  | '\'' :: rest => quotedLine? '\'' rest
  | cs =>
    let part := cs.takeWhile isKeyChar
    if part.isEmpty then none else some (String.ofList part, cs.dropWhile isKeyChar)

def keyParts? : Nat → List Char → Option (List String × List Char)
  | 0, _ => none
  | n + 1, cs => do
    let (part, rest) ← keyPart? cs
    match rest.dropWhile isSpace with
    | '.' :: more =>
      let (parts, behind) ← keyParts? n (more.dropWhile isSpace)
      return (part :: parts, behind)
    | behind => return ([part], behind)

def key? (cs : List Char) : Option (List String × List Char) :=
  keyParts? (cs.length + 1) cs

end AuthGateway.Toml
