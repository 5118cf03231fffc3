import AuthGateway.Policy
import AuthGateway.Route.Path
import AuthGateway.Settings.Problem

/-!
The route table. A route takes the paths under its prefix to an upstream, under
a policy. Of the routes that match a path the one with the longest prefix is
taken, and among equal prefixes the one configured first.
-/
namespace AuthGateway

/-- Where requests go. The prefix is compared with canonical paths. -/
structure Route where
  name : String
  pathPrefix : String
  upstream : Url
  policy : Policy
deriving DecidableEq

namespace Route

def strip? : List Char → List Char → Option (List Char)
  | [], rest => some rest
  | _ :: _, [] => none
  | a :: as, b :: bs => if a = b then strip? as bs else none

/-- Whether a path lies under a prefix. Prefixes end at a slash. -/
def isUnder (root path : List Char) : Bool :=
  if root = ['/'] then true
  else
    match strip? root path with
    | none => false
    | some rest => rest.isEmpty || rest.head? == some '/' || root.getLast? == some '/'

def isMatch (r : Route) (path : String) : Bool :=
  isUnder r.pathPrefix.toList path.toList

def withoutEndSlashes (cs : List Char) : List Char :=
  (cs.reverse.dropWhile (· == '/')).reverse

/-- The upstream's URL for a canonical path and a raw query. -/
def upstreamUrl (r : Route) (path query : String) : Except Url.ParseError Url := do
  let url ← Url.parse (String.ofList (withoutEndSlashes r.upstream.chars) ++ path)
  return if query.isEmpty then url else url.setQuery query

/-- Puts a route behind those whose prefix is not shorter. -/
def insertByLength (r : Route) : List Route → List Route
  | [] => [r]
  | s :: rest =>
    if Utf8.size r.pathPrefix ≤ Utf8.size s.pathPrefix then s :: insertByLength r rest
    else r :: s :: rest

end Route

/-- Routes, longest prefix first. -/
structure RouteTable where
  routes : List Route
deriving DecidableEq

namespace RouteTable

/-- Orders routes; the order of routes with equally long prefixes stays. -/
def ofRoutes (routes : List Route) : RouteTable :=
  ⟨routes.foldl (fun sorted r => Route.insertByLength r sorted) []⟩

def find? (t : RouteTable) (path : String) : Option Route :=
  t.routes.find? fun r => r.isMatch path

def methods (profile : String) (names : List String) : Except ConfigurationError (List Http.Method) :=
  names.mapM fun n =>
    match Http.Method.ofText? n with
    | some m => .ok m
    | none => .error (.invalid [.profile profile .unreadableMethod])

/-- Configured response headers as rules, in the order of their names. -/
def headerRules (p : Settings.SecurityProfile) : Except ConfigurationError (List Http.HeaderRule) :=
  p.responseHeaders.entries.mapM fun e =>
    match Http.HeaderRule.ofEntry e.1 e.2 with
    | .ok r => .ok r
    | .error e => .error (.invalid [.profile p.name (.header e)])

def policy (own : Url) (s : Settings.Session) (p : Settings.SecurityProfile)
    (allowAnonymous : Bool) : Except ConfigurationError Policy := do
  let headerRules ← headerRules p
  let strategy ← Csrf.Strategy.resolve p.csrfProtection
  let safeMethods ← methods p.name p.csrfSafeMethods
  let allowedMethods ← methods p.name p.allowedMethods
  return { Policy.ofSession (.ofStrategy own strategy) s with
    allowAnonymous, safeMethods, allowedMethods, headerRules }

def route (own : Url) (s : Settings) (r : Settings.Route) : Except ConfigurationError Route := do
  let profile ←
    match s.profile? r.securityProfile with
    | some p => .ok p
    | none => .error (.unknownSecurityProfile r.name r.securityProfile)
  let upstream ←
    match Url.parse r.upstreamUrl with
    | .ok u => .ok u
    | .error _ => .error (.invalidUpstreamUrl r.name r.upstreamUrl)
  return ⟨r.name, r.pathPrefix, upstream, ← policy own s.session profile r.allowAnonymous⟩

def ofSettings (own : Url) (s : Settings) : Except ConfigurationError RouteTable := do
  return ofRoutes (← s.routes.mapM (route own s))

end RouteTable

end AuthGateway
