import AuthGateway.Decision
import AuthGateway.Forwarding
import AuthGateway.Redirect
import AuthGateway.Route.Table
import AuthGateway.Session.Status
import AuthGateway.Settings.KeySource
import AuthGateway.Settings.Validation

/-!
The gateway as a whole: what it answers to a request, and what it asks of an
upstream. It has three endpoints of its own, for its health, the session of the
caller, and logging out; every other request is forwarded along a route.
-/
namespace AuthGateway

open Http (Request Response)
open Revocation (Store)

structure Gateway where
  authenticator : Authenticator
  routes : RouteTable
  /-- The policy of the endpoint that tells of the session. -/
  sessionPolicy : Policy
  logoutTarget : String
  logoutHosts : List String
deriving DecidableEq

namespace Gateway

def ofKey (s : Settings) (key : Key) : Except ConfigurationError Gateway := do
  let own ← s.publicUrl
  let strategy ← Csrf.Strategy.resolve s.logout.csrfProtection
  let failurePolicy ← Revocation.FailurePolicy.resolve s.revocation.failurePolicy
  let routes ← RouteTable.ofSettings own s
  return {
    authenticator := {
      issuer := ⟨key, own.scheme = .https⟩
      failurePolicy := failurePolicy
      logoutGuard := .ofStrategy own strategy
      patience := s.revocation.lookupTimeoutMs.toNat }
    routes := routes
    -- a caller without a session is told so, and not refused
    sessionPolicy := { Policy.ofSession .none s.session with allowAnonymous := true }
    logoutTarget := s.logout.redirectUrl
    logoutHosts := s.logout.allowedReturnHosts }

/-- The gateway of some settings, and the files afterwards. Its key may be in
one of them, or be the fresh one. -/
def ofSettings (s : Settings) (files : Files) (fresh : Key) :
    Except ConfigurationError (Gateway × Files) := do
  s.validate
  let _ ← s.publicUrl
  match s.session.findKey files fresh with
  | (_, .error e) => .error (.invalidKey e)
  | (files, .ok found) => return (← ofKey s found.key, files)

inductive Endpoint where
  | health
  | session
  | logout
  | proxy
deriving DecidableEq

/-- The characters whose escapes stay in a path that names an endpoint. -/
def staysEscaped (b : UInt8) : Bool :=
  b == 0x25 || b == 0x2F || b == 0x2B

/-- Undoes the escapes of a path, but for a few characters. -/
def unescapeOnto (done : List UInt8) : List UInt8 → List UInt8
  | [] => done.reverse
  | 0x25 :: hi :: lo :: rest =>
    match Percent.byte? hi lo with
    | some b =>
      if staysEscaped b then unescapeOnto (lo :: hi :: 0x25 :: done) rest
      else unescapeOnto (b :: done) rest
    | none => unescapeOnto (0x25 :: done) (hi :: lo :: rest)
  | b :: rest => unescapeOnto (b :: done) rest

def endpoint (r : Request) : Endpoint :=
  let path := unescapeOnto [] (Utf8.encode r.path)
  if path = Utf8.encode "/ping" ∧ r.method = .get then .health
  else if path = Utf8.encode "/auth/session" ∧ r.method = .get then .session
  else if path = Utf8.encode "/auth/logout" ∧ (r.method = .get ∨ r.method = .post) then .logout
  else .proxy

def bodyLimit : Nat := 262144

def bodyFailure? (r : Request) : Option Response :=
  if bodyLimit < r.body.length then some (.ofText 413 "payload reached size limit") else none

def sessionResponse (d : Decision) : Response :=
  match d.outcome with
  | .authenticated s => .ok (SessionInformation.toJson ⟨.authenticated, some s.remaining⟩) d.cookies
  | .anonymous => .ok (SessionInformation.toJson ⟨.anonymous, none⟩) d.cookies
  | .rejected _ => .refuse .unauthorized

def returnUrlName : String := "returnUrl"

def logoutLocation (g : Gateway) (returnUrl : Option String) : String :=
  match returnUrl with
  | none => g.logoutTarget
  | some url =>
    match Redirect.validate url g.logoutHosts with
    | .ok target => target.render
    | .error _ => g.logoutTarget

def logoutResponse (g : Gateway) (returnUrl : Option String) : LogoutOutcome → Response
  | .rejected => .refuse .unauthorized
  | .loggedOut _ cookies => .redirect (g.logoutLocation returnUrl) cookies

def returnUrls (query : String) : List String :=
  ((Form.pairs (Utf8.encode query)).filter fun p => p.1 == returnUrlName).map Prod.snd

def logOut (g : Gateway) (store : Store) (now : Int64) (r : Request) (returnUrl : Option String) :
    Store × Response :=
  let (store, outcome) := g.authenticator.logout store now r r.body
  (store, g.logoutResponse returnUrl outcome)

/-- Logs a caller out whose request can be read. A query may name one return URL at most. -/
def handleLogout (g : Gateway) (store : Store) (now : Int64) (r : Request) : Store × Response :=
  match bodyFailure? r with
  | some failure => (store, failure)
  | none =>
    match returnUrls r.query with
    | _ :: _ :: _ =>
      (store, .ofText 400 ("Query deserialize error: duplicate field `" ++ returnUrlName ++ "`"))
    | found => g.logOut store now r found.head?

/-- What the gateway does next about a request: it responds, or it asks an
upstream first, on behalf of a route and with cookies for the response. -/
inductive Plan where
  | respond (r : Response)
  | ask (o : Forwarding.Outgoing) (route : Route) (cookies : List Http.SetCookie)
deriving DecidableEq

def underRules (route : Route) (r : Response) : Response :=
  { r with headers := Http.HeaderRule.applyAll route.policy.headerRules r.headers }

def planRoute (g : Gateway) (store : Store) (nonce : Octets 12) (now : Int64) (route : Route)
    (path : String) (r : Request) : Plan :=
  if !route.policy.isAllowed r.method then
    .respond (underRules route (.refuse .methodNotAllowed))
  else
    let d := g.authenticator.authenticate store nonce now route.policy r r.body
    if d.outcome.isRejected then .respond (underRules route (.refuse .unauthorized))
    else
      -- an upstream is looked at only for a caller who is let in
      match route.upstreamUrl path r.query with
      | .error _ => .respond (underRules route (.refuse .badGateway))
      | .ok url =>
        match Forwarding.outgoing? r url d.outcome.session? with
        | none => .respond (underRules route (.refuse .badGateway))
        | some o => .ask o route d.cookies

/-- Forwards a request along the route of its canonical path. -/
def planForward (g : Gateway) (store : Store) (nonce : Octets 12) (now : Int64) (r : Request) :
    Plan :=
  match Route.normalizePath r.path with
  | .error _ => .respond (.refuse .badRequest)
  | .ok path =>
    match g.routes.find? path with
    | none => .respond (.refuse .notFound)
    | some route => g.planRoute store nonce now route path r

def planProxy (g : Gateway) (store : Store) (nonce : Octets 12) (now : Int64) (r : Request) : Plan :=
  match bodyFailure? r with
  | some failure => .respond failure
  | none => g.planForward store nonce now r

/-- What the gateway does next about a request, and the store afterwards. -/
def plan (g : Gateway) (store : Store) (nonce : Octets 12) (now : Int64) (r : Request) :
    Store × Plan :=
  match endpoint r with
  | .health => (store, .respond (.ok Health.current.toJson []))
  | .session =>
    (store, .respond (sessionResponse
      (g.authenticator.authenticate store nonce now g.sessionPolicy r [])))
  | .logout =>
    let (store, response) := g.handleLogout store now r
    (store, .respond response)
  | .proxy => (store, g.planProxy store nonce now r)

/-- The response once it is known what came of the question to the upstream. An
answer that breaks off is reported without regard to the rules of the route. -/
def finish (route : Route) (cookies : List Http.SetCookie) : Forwarding.Incoming → Response
  | .brokenOff => Forwarding.respond cookies .brokenOff
  | i => underRules route (Forwarding.respond cookies i)

def Plan.carryOut (p : Plan) (upstream : Forwarding.Outgoing → Forwarding.Incoming) : Response :=
  match p with
  | .respond r => r
  | .ask o route cookies => finish route cookies (upstream o)

/-- Handles a request: the response, and the store afterwards. -/
def handle (g : Gateway) (upstream : Forwarding.Outgoing → Forwarding.Incoming) (store : Store)
    (nonce : Octets 12) (now : Int64) (r : Request) : Store × Response :=
  let (store, p) := g.plan store nonce now r
  (store, p.carryOut upstream)

end Gateway

end AuthGateway
