import AuthGateway.Decimal.Digits
import AuthGateway.Url.Host
import AuthGateway.Url.Segments

/-!
Absolute URLs as records of their parts, and the text of a URL.
-/
namespace AuthGateway.Url

inductive Scheme where
  | http
  | https
  | ws
  | wss
  | ftp
  | file
  | other (name : List Char)
deriving DecidableEq

namespace Scheme

def chars : Scheme → List Char
  | .http => "http".toList
  | .https => "https".toList
  | .ws => "ws".toList
  | .wss => "wss".toList
  | .ftp => "ftp".toList
  | .file => "file".toList
  | .other name => name

def ofChars (name : List Char) : Scheme :=
  match [Scheme.http, .https, .ws, .wss, .ftp, .file].find? fun s => s.chars == name with
  | some s => s
  | none => .other name

def isSpecial : Scheme → Bool
  | .other _ => false
  | _ => true

def defaultPort? : Scheme → Option Nat
  | .http => some 80
  | .https => some 443
  | .ws => some 80
  | .wss => some 443
  | .ftp => some 21
  | .file => none
  | .other _ => none

end Scheme

/-- User, host and port; a port that the scheme implies is left out. -/
structure Authority where
  username : List Char
  password : Option (List Char)
  host : Host
  port : Option Nat
deriving DecidableEq

/-- A path is made of segments, or is one text that is no hierarchy. -/
inductive Path where
  | segments (all : List (List Char))
  | verbatim (text : List Char)
deriving DecidableEq

def Path.chars : Path → List Char
  | .segments all => Segments.chars all
  | .verbatim text => text

end Url

structure Url where
  scheme : Url.Scheme
  authority : Option Url.Authority
  path : Url.Path
  query : Option (List Char)
  fragment : Option (List Char)
deriving DecidableEq

namespace Url

def Authority.userChars (a : Authority) : List Char :=
  match a.username, a.password with
  | [], none => []
  | name, none => name ++ ['@']
  | name, some password => name ++ ':' :: (password ++ ['@'])

def Authority.chars (a : Authority) : List Char :=
  a.userChars ++ a.host.chars ++
    match a.port with
    | none => []
    | some n => ':' :: Decimal.natChars n

/-- Without an authority, a dot keeps two slashes at the front of the path from
being taken for one. -/
def pathChars (u : Url) : List Char :=
  match u.authority, u.path with
  | none, .segments ([] :: s :: rest) => '/' :: '.' :: Segments.chars ([] :: s :: rest)
  | _, p => p.chars

def originChars (u : Url) : List Char :=
  u.scheme.chars ++ ':' ::
    match u.authority with
    | none => []
    | some a => '/' :: '/' :: a.chars

def tailChars (u : Url) : List Char :=
  (match u.query with
    | none => []
    | some q => '?' :: q) ++
  match u.fragment with
  | none => []
  | some f => '#' :: f

def chars (u : Url) : List Char :=
  u.originChars ++ u.pathChars ++ u.tailChars

def render (u : Url) : String :=
  String.ofList u.chars

def hostText? (u : Url) : Option String :=
  match u.authority with
  | some a => if a.host.chars.isEmpty then none else some (String.ofList a.host.chars)
  | none => none

def port? (u : Url) : Option Nat :=
  match u.authority with
  | some a => a.port.orElse fun _ => u.scheme.defaultPort?
  | none => u.scheme.defaultPort?

def hasCredentials (u : Url) : Bool :=
  match u.authority with
  | some a => !a.username.isEmpty || a.password.isSome
  | none => false

/-- Replaces the query by a raw text, in which a number sign has no meaning. -/
def setQuery (u : Url) (raw : String) : Url :=
  let cs := Escape.significant raw.toList
  { u with query := some (Percent.encode (Escape.inQuery u.scheme.isSpecial) cs) }

end Url

end AuthGateway
