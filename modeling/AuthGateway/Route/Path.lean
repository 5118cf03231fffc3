import AuthGateway.Url.Segments

/-!
The canonical form of a request path, which is the one that routes are matched
with and that an upstream gets. Escapes of characters that need none are
undone, dot segments are resolved, and an escaped slash or backslash is
refused, because an upstream might take it for a separator.
-/
namespace AuthGateway.Route

inductive PathError where
  | encodedSeparator
  | malformed
deriving DecidableEq

def PathError.message : PathError → String
  | .encodedSeparator => "encoded path separator in request path"
  | .malformed => "request path cannot be parsed"

def escaped? (hi lo : Char) : Option Char := do
  let h ← Hex.value? hi
  let l ← Hex.value? lo
  return Char.ofNat (16 * h + l)

def isSeparator (c : Char) : Bool :=
  c == '/' || c == '\\'

/-- The characters that mean the same with and without an escape. -/
def isUnreserved (c : Char) : Bool :=
  Ascii.isAlphanumeric c || c == '-' || c == '.' || c == '_' || c == '~'

/-- Undoes the escapes of unreserved characters, unless a separator is escaped. -/
def unescape? : List Char → Option (List Char)
  | [] => some []
  | '%' :: hi :: lo :: rest =>
    match escaped? hi lo with
    | some c =>
      if isSeparator c then none
      else if isUnreserved c then (unescape? rest).map (c :: ·)
      else (unescape? (hi :: lo :: rest)).map ('%' :: ·)
    | none => (unescape? (hi :: lo :: rest)).map ('%' :: ·)
  | c :: rest => (unescape? rest).map (c :: ·)

def canonicalChars (cs : List Char) : List Char :=
  Url.Segments.chars (Url.Segments.ofChars true (Url.Escape.significant cs))

def normalizePath (path : String) : Except PathError String :=
  match unescape? path.toList with
  | none => .error .encodedSeparator
  | some cs =>
    let canonical := canonicalChars cs
    if canonical.head? = some '/' then .ok (String.ofList canonical) else .error .malformed

end AuthGateway.Route
