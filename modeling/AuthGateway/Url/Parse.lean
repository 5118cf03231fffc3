import AuthGateway.Url.Basic
import AuthGateway.Url.FilePath

/-!
Reading absolute URLs. The text is trimmed, tabs and line ends do not count, and
the rest is cut into scheme, authority, path, query and fragment, each of which
is then read by its own rule.
-/
namespace AuthGateway.Url

def isSchemeChar (c : Char) : Bool :=
  Ascii.isAlphanumeric c || c == '+' || c == '-' || c == '.'

def cutScheme? (cs : List Char) : Option (List Char × List Char) :=
  match cs with
  | [] => none
  | c :: _ =>
    if Ascii.isLetter c then
      match cs.dropWhile isSchemeChar with
      | ':' :: rest => some ((cs.takeWhile isSchemeChar).map Ascii.lowerChar, rest)
      | _ => none
    else none

structure Tail where
  path : List Char
  query : Option (List Char)
  fragment : Option (List Char)

def cutTail (cs : List Char) : Tail :=
  let beforeFragment := Split.before '#' cs
  ⟨Split.before '?' beforeFragment, Split.after? '?' beforeFragment, Split.after? '#' cs⟩

/-- A URL of which all but query and fragment is read. -/
def withTail (scheme : Scheme) (authority : Option Authority) (path : Path) (t : Tail) : Url :=
  ⟨scheme, authority, path, t.query.map (Percent.encode (Escape.inQuery scheme.isSpecial)),
    t.fragment.map (Percent.encode Escape.inFragment)⟩

def isSlash (special : Bool) (c : Char) : Bool :=
  c == '/' || (special && c == '\\')

def isAuthorityEnd (special : Bool) (c : Char) : Bool :=
  isSlash special c || c == '?' || c == '#'

def cutUser? (cs : List Char) : Option (List Char × List Char) :=
  (Split.once? '@' cs.reverse).map fun (behind, before) => (before.reverse, behind.reverse)

/-- User and password; an empty password is none. -/
def credentials (cs : List Char) : List Char × Option (List Char) :=
  let escaped := Percent.encode Escape.inUserinfo
  match Split.once? ':' cs with
  | none => (escaped cs, none)
  | some (name, []) => (escaped name, none)
  | some (name, password) => (escaped name, some (escaped password))

def hostPart (inside : Bool) : List Char → List Char
  | [] => []
  | c :: rest =>
    if c = ':' ∧ inside = false then []
    else c :: hostPart (if c = '[' then true else if c = ']' then false else inside) rest

/-- The port text of an authority, and what a backslash leaves to the path. -/
def readPort (scheme : Scheme) (cs : List Char) : Except ParseError (Option Nat × List Char) :=
  let digits := cs.takeWhile Ascii.isDigit
  let rest := cs.drop digits.length
  let n := Decimal.value digits
  if 65535 < n ∨ (!rest.isEmpty ∧ rest.head? ≠ some '\\') then .error .invalidPort
  else .ok (if digits.isEmpty ∨ scheme.defaultPort? = some n then none else some n, rest)

def readHostAndPort (scheme : Scheme) (cs : List Char) :
    Except ParseError (Host × Option Nat × List Char) := do
  let hostText := hostPart false cs
  let rest := cs.drop hostText.length
  if scheme.isSpecial ∧ hostText = [] then throw .emptyHost
  let host ← if scheme.isSpecial then Host.special hostText else Host.general hostText
  match rest with
  | [] => return (host, none, [])
  | _ :: portText =>
    if host = .domain [] then throw .emptyHost
    let (p, left) ← readPort scheme portText
    return (host, p, left)

/-- The authority, from its text and what follows that; also what the path
begins with. A user needs a host. -/
def readAuthority (scheme : Scheme) (cs behind : List Char) :
    Except ParseError (Authority × List Char) := do
  let (user, place) := (cutUser? cs).getD ([], cs)
  if (cutUser? cs).isSome ∧ user = [] ∧ place = [] ∧ behind ≠ [] then throw .emptyHost
  let (username, password) := credentials user
  let (host, p, left) ← readHostAndPort scheme place
  if host = .domain [] ∧ (username ≠ [] ∨ password.isSome) then throw .emptyHost
  return (⟨username, password, host, p⟩, left)

/-- The path behind an authority: a well-known scheme has at least one segment. -/
def pathAfterAuthority (scheme : Scheme) (cs : List Char) : Path :=
  if !scheme.isSpecial ∧ cs = [] then .segments []
  else .segments (Segments.ofChars scheme.isSpecial cs)

def parseAuthority (scheme : Scheme) (cs : List Char) : Except ParseError Url := do
  let ends := isAuthorityEnd scheme.isSpecial
  let behind := cs.dropWhile fun c => !ends c
  let (a, left) ← readAuthority scheme (cs.takeWhile fun c => !ends c) behind
  let t := cutTail (left ++ behind)
  return withTail scheme (some a) (pathAfterAuthority scheme t.path) t

def parseRootless (scheme : Scheme) (cs : List Char) : Url :=
  let t := cutTail cs
  match t.path with
  | '/' :: rest => withTail scheme none (.segments (Segments.ofChars false ('/' :: rest))) t
  | text => withTail scheme none (.verbatim (Percent.encode Escape.isControl text)) t

/-- A file URL with a host, which a drive at the front of the path replaces. -/
def fileUrl (host : Host) (path : FilePath.Walk) (t : Tail) : Url :=
  withTail .file (some ⟨[], none, if path.keepsHost then host else .domain [], none⟩)
    (.segments path.segments)
    { t with
      query := t.query.map Escape.significant
      fragment := t.fragment.map Escape.significant }

/-- A file URL without two slashes, or with a drive behind them. -/
def driveUrl (cs : List Char) : Url :=
  let t := cutTail cs
  fileUrl (.domain []) (FilePath.ofChars t.path) t

/-- A file URL behind two slashes and the text of its host, which may be empty
or the local one. -/
def hostUrl (hostText behind : List Char) : Except ParseError Url := do
  let host ← if hostText = [] then pure (.domain []) else Host.special hostText
  let t := cutTail behind
  if host = .domain [] ∨ host = .domain "localhost".toList then
    return fileUrl (.domain []) (FilePath.ofRootedChars t.path) t
  else return fileUrl host (FilePath.ofChars t.path) t

/-- A file URL, in which ignored characters still stand. -/
def parseFile (cs : List Char) : Except ParseError Url :=
  match Escape.significant cs with
  | a :: b :: rest =>
    let hostText := rest.takeWhile fun c => !isAuthorityEnd true c
    if !(isSlash true a && isSlash true b) then .ok (driveUrl cs)
    else if Segments.isDrive hostText then .ok (driveUrl (Escape.dropSignificant 2 cs))
    else hostUrl hostText (Escape.dropSignificant (2 + hostText.length) cs)
  | _ => .ok (driveUrl cs)

def parseAfterScheme (scheme : Scheme) (cs : List Char) : Except ParseError Url :=
  match scheme with
  | .other _ =>
    match cs with
    | '/' :: '/' :: rest => parseAuthority scheme rest
    | _ => .ok (parseRootless scheme cs)
  | _ => parseAuthority scheme (cs.dropWhile (isSlash true))

def parse (s : String) : Except ParseError Url :=
  let cs := Blank.trimBy (·.toNat ≤ 0x20) s.toList
  match cutScheme? (Escape.significant cs) with
  | none => .error .relative
  | some (name, rest) =>
    match Scheme.ofChars name with
    | .file => parseFile ((Split.after? ':' cs).getD [])
    | scheme => parseAfterScheme scheme rest

end AuthGateway.Url
