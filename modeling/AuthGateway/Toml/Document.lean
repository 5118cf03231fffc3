import AuthGateway.Toml.Draft
import AuthGateway.Toml.Number

/-!
TOML documents. A document is a sequence of lines, each a key with a value, or
a header; the values behind a header belong to its table.
-/
namespace AuthGateway.Toml

def skip (cs : List Char) : List Char :=
  cs.dropWhile isSpace

def isCommentChar (c : Char) : Bool :=
  c == '\t' || 0x20 ≤ c.toNat

/-- Drops spaces, line ends and comments; a comment ends at a line end. -/
def skipLines? (inComment : Bool) : List Char → Option (List Char)
  | [] => some []
  | c :: rest =>
    if c = '\n' then skipLines? false rest
    else if inComment then if isCommentChar c then skipLines? true rest else none
    else if isSpace c then skipLines? false rest
    else if c = '#' then skipLines? true rest
    else some (c :: rest)

def endLine? (cs : List Char) : Option (List Char) :=
  match skip cs with
  | [] => some []
  | '\n' :: rest => some rest
  | '#' :: comment =>
    match comment.dropWhile isCommentChar with
    | [] => some []
    | '\n' :: rest => some rest
    | _ => none
  | _ => none

def plainValue? (cs : List Char) : Option (Value × List Char) :=
  let word := cs.takeWhile isKeyChar
  let rest := cs.dropWhile isKeyChar
  if word = "true".toList then some (.boolean true, rest)
  else if word = "false".toList then some (.boolean false, rest)
  else
    match cs with
    | '+' :: unsigned => number? unsigned
    | c :: _ =>
      if c = '-' ∨ Ascii.isDigit c ∨ word = "inf".toList ∨ word = "nan".toList then number? cs
      else none
    | [] => none

mutual

/-- Reads a value. Every step takes a character, so that the length of the text
bounds the depth. -/
def value? : Nat → List Char → Option (Value × List Char)
  | 0, _ => none
  | n + 1, cs =>
    match cs with
    | '"' :: _ => (string? cs).map fun (s, rest) => (.string s, rest)
    | '\'' :: _ => (string? cs).map fun (s, rest) => (.string s, rest)
    | '[' :: rest => (items? n rest).map fun (vs, behind) => (.array vs, behind)
    | '\x7b' :: rest =>
      match skip rest with
      | '\x7d' :: behind => some (.table [], behind)
      | inside => do
        let (entries, behind) ← entries? n inside
        let fields ← Fields.assignAll? [] entries
        return (.table (Draft.finishFields fields), behind)
    | _ => plainValue? cs

/-- The rest of an array, which may go over lines and end in a comma. -/
def items? : Nat → List Char → Option (List Value × List Char)
  | 0, _ => none
  | n + 1, cs => do
    match ← skipLines? false cs with
    | ']' :: rest => return ([], rest)
    | inside =>
      let (v, rest) ← value? n inside
      match ← skipLines? false rest with
      | ',' :: more =>
        let (vs, behind) ← items? n more
        return (v :: vs, behind)
      | ']' :: behind => return ([v], behind)
      | _ => none

/-- The rest of an inline table, which has to stay on its line. -/
def entries? : Nat → List Char → Option (List (List String × Value) × List Char)
  | 0, _ => none
  | n + 1, cs => do
    let (key, rest) ← key? cs
    match rest with
    | '=' :: behind =>
      let (v, rest) ← value? n (skip behind)
      match skip rest with
      | '\x7d' :: behind => return ([(key, v)], behind)
      | ',' :: more =>
        let (es, behind) ← entries? n (skip more)
        return ((key, v) :: es, behind)
      | _ => none
    | _ => none

end

inductive Line where
  | table (path : List String)
  | element (path : List String)
  | entry (key : List String) (v : Value)

def endHeader? (close : List Char) (cs : List Char) : Option (List Char) :=
  if cs.take close.length = close then endLine? (cs.drop close.length) else none

def line? (cs : List Char) : Option (Line × List Char) :=
  match cs with
  | '[' :: '[' :: rest => do
    let (path, behind) ← key? (skip rest)
    return (.element path, ← endHeader? [']', ']'] behind)
  | '[' :: rest => do
    let (path, behind) ← key? (skip rest)
    return (.table path, ← endHeader? [']'] behind)
  | _ => do
    let (key, rest) ← key? cs
    match rest with
    | '=' :: behind =>
      let (v, rest) ← value? (cs.length + 1) (skip behind)
      return (.entry key v, ← endLine? rest)
    | _ => none

/-- The lines of a text; there are no more than it has characters. -/
def lines? : Nat → List Char → Option (List Line)
  | 0, _ => none
  | n + 1, cs => do
    match ← skipLines? false cs with
    | [] => return []
    | text =>
      let (l, rest) ← line? text
      return l :: (← lines? n rest)

def leadingEntries : List Line → List (List String × Value)
  | .entry key v :: rest => (key, v) :: leadingEntries rest
  | _ => []

def addLines? (fields : Fields) : List Line → Option Fields
  | [] => some fields
  | .table path :: rest => do addLines? (← fields.addTable? path (leadingEntries rest)) rest
  | .element path :: rest => do addLines? (← fields.addElement? path (leadingEntries rest)) rest
  | .entry _ _ :: rest => addLines? fields rest

/-- Line ends are written with or without a carriage return. -/
def unifyLineEnds : List Char → List Char
  | [] => []
  | '\r' :: '\n' :: rest => '\n' :: unifyLineEnds rest
  | c :: rest => c :: unifyLineEnds rest

/-- The table that a document denotes. A byte order mark in front is no part of it. -/
def parse? (text : String) : Option Value := do
  let cs := text.toList
  let cs := unifyLineEnds (if cs.head? = some '\uFEFF' then cs.drop 1 else cs)
  let lines ← lines? (cs.length + 1) cs
  let root ← Fields.assignAll? [] (leadingEntries lines)
  return .table (Draft.finishFields (← addLines? root lines))

end AuthGateway.Toml
