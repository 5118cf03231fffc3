import AuthGateway.Http.Headers
import AuthGateway.Text.Blank
import AuthGateway.Text.Percent
import AuthGateway.Text.Split
import AuthGateway.Decimal.Digits
import AuthGateway.Time

/-!
Cookies in both directions: the pairs that a request brings, and the cookies
that a response sets, with their attributes as a client reads them.
-/
namespace AuthGateway.Http

def unquote (cs : List Char) : List Char :=
  match cs with
  | '"' :: rest => if rest.getLast? = some '"' then rest.dropLast else cs
  | _ => cs

/-- Name and value of a trimmed piece: the trimmed sides of its first equals
sign, the value without quotes and without the blanks inside them. -/
def rawPair? (piece : List Char) : Option (List Char × List Char) := do
  let (name, value) ← Split.once? '=' piece
  let name := Blank.trimChars name
  if name.isEmpty then none
  else some (name, Blank.trimChars (unquote (Blank.trimChars value)))

/-- A pair whose sides are text after percent-decoding. -/
def pair? (piece : List Char) : Option (String × String) := do
  let (name, value) ← rawPair? piece
  return (← Percent.decodeText? (String.ofList name), ← Percent.decodeText? (String.ofList value))

def cookiePairs (text : String) : List (String × String) :=
  ((Split.pieces ';' text.toList).map Blank.trimChars).filterMap pair?

/-- The cookies of a request, in order. One header that is not UTF-8 spoils them all. -/
def requestCookies (h : Headers) : List (String × String) :=
  match (h.values .cookie).mapM fun v => Utf8.decode? v.bytes with
  | none => []
  | some texts => texts.flatMap cookiePairs

def requestCookie? (h : Headers) (name : String) : Option String :=
  (requestCookies h).lookup name

inductive SameSite where
  | strict
  | lax
  | none
deriving DecidableEq

def SameSite.name : SameSite → String
  | .strict => "Strict"
  | .lax => "Lax"
  | .none => "None"

/-- A cookie that a response sets. A removal carries an expiry in the past. -/
structure SetCookie where
  name : String
  value : String
  httpOnly : Bool
  secure : Bool
  sameSite : Option SameSite
  path : Option String
  maxAge : Option Int64
  removal : Bool
deriving DecidableEq

namespace SetCookie

/-- The expiry of a removal. A client that reads it learns that it is over, which any date in the
past would tell as well; this one stands for all of them. -/
def pastDate : String := "Thu, 01 Jan 1970 00:00:00 GMT"

def plain (name value : String) : SetCookie :=
  ⟨name, value, false, false, .none, .none, .none, false⟩

def attributes (c : SetCookie) : List String :=
  (if c.httpOnly then ["HttpOnly"] else []) ++
  (match c.sameSite with
    | some s => ["SameSite=" ++ s.name]
    | .none => []) ++
  (if c.secure then ["Secure"] else []) ++
  (match c.path with
    | some p => ["Path=" ++ p]
    | .none => []) ++
  (match c.maxAge with
    | some n => ["Max-Age=" ++ String.ofList (Decimal.integerChars n.toInt)]
    | .none => []) ++
  (if c.removal then ["Expires=" ++ pastDate] else [])

/-- The header text; name and value stand in it as they are. -/
def render (c : SetCookie) : String :=
  String.join (c.name :: "=" :: c.value :: c.attributes.map ("; " ++ ·))

/-- Takes in one attribute; the last one of a kind counts. -/
def withAttribute (c : SetCookie) (piece : List Char) : SetCookie :=
  let key := Ascii.lower (String.ofList (Blank.trimChars (Split.before '=' piece)))
  match key, (Split.after? '=' piece).map Blank.trimChars with
  | "secure", _ => { c with secure := true }
  | "httponly", _ => { c with httpOnly := true }
  | "path", some v => { c with path := some (String.ofList v) }
  | "samesite", some v =>
    match [SameSite.strict, .lax, .none].find? fun s =>
        Ascii.sameIgnoringCase s.name (String.ofList v) with
    | some s => { c with sameSite := some s }
    | .none => c
  | "max-age", some v =>
    -- an age below zero ends a cookie at once
    let negative := v.head? = some '-'
    let digits := if negative then v.drop 1 else v
    if digits.all Ascii.isDigit then
      { c with maxAge := some (if negative then 0
          else if digits.isEmpty then Int64.maxValue else Time.clamp (Decimal.value digits : Nat)) }
    else c
  | "expires", some v => { c with removal := String.ofList v == pastDate }
  | _, _ => c

def ofText? (text : String) : Option SetCookie :=
  match Split.pieces ';' text.toList with
  | [] => .none
  | first :: rest => (rawPair? first).map fun (name, value) =>
    rest.foldl withAttribute (plain (String.ofList name) (String.ofList value))

end SetCookie

def responseCookies (h : Headers) : List SetCookie :=
  (h.values .setCookie).filterMap fun v => (Utf8.decode? v.bytes).bind SetCookie.ofText?

end AuthGateway.Http
