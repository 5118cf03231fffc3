import AuthGateway.Policy
import AuthGateway.Revocation.FailurePolicy
import AuthGateway.Revocation.Store
import AuthGateway.Session.Cookies

/-!
Whom the gateway takes a caller for. A request has a live session if its cookie
opens to a payload with lifetime left that was not revoked; a policy says what
becomes of requests without one, which requests a guard looks at, and when a
session is renewed. Why there is no live session is never told.
-/
namespace AuthGateway

open Http (Request SetCookie)
open Revocation (Lookup FailurePolicy Store)

inductive RejectReason where
  | unauthenticated
  | csrfBlocked
deriving DecidableEq

inductive Outcome where
  | anonymous
  | authenticated (s : Session)
  | rejected (r : RejectReason)
deriving DecidableEq

namespace Outcome

def session? : Outcome → Option Session
  | .authenticated s => some s
  | _ => none

def isRejected : Outcome → Bool
  | .rejected _ => true
  | _ => false

end Outcome

structure Decision where
  outcome : Outcome
  cookies : List SetCookie
deriving DecidableEq

inductive LogoutOutcome where
  | rejected
  | loggedOut (revoked : Bool) (cookies : List SetCookie)
deriving DecidableEq

inductive IssueError where
  | overAtOnce
deriving DecidableEq

def IssueError.message : IssueError → String
  | .overAtOnce => "session duration must be positive"

/-- What decisions depend on, beside request, policy, time and store. -/
structure Authenticator where
  issuer : CookieIssuer
  failurePolicy : FailurePolicy
  logoutGuard : Csrf.Guard
  /-- How many milliseconds to wait for the revocation store. -/
  patience : Nat
deriving DecidableEq

namespace Authenticator

def survives (p : FailurePolicy) : Lookup → Bool
  | .notRevoked => true
  | .revoked => false
  | .unknown => p == .failOpen

/-- The session that the cookie of a request carries, revoked or not. -/
def presentedSession? (a : Authenticator) (now : Int64) (r : Request) : Option Session :=
  match a.issuer.readPayload r.headers with
  | .ok (some p) => Session.ofPayload? p now
  | _ => none

def liveSession? (a : Authenticator) (lookup : String → Lookup) (now : Int64) (r : Request) :
    Option Session :=
  (a.presentedSession? now r).filter fun s => survives a.failurePolicy (lookup s.payload.id)

def context (r : Request) (body : List UInt8) : Csrf.Context :=
  (Csrf.Context.ofRequest r).withFormBody r body

def renew (a : Authenticator) (nonce : Octets 12) (now : Int64) (p : Policy) (s : Session) :
    Decision :=
  let payload := s.renewed (Time.after now p.lifetime)
  ⟨.authenticated ((Session.ofPayload? payload now).getD s),
    [a.issuer.session nonce payload p.lifetime, a.issuer.csrf payload.csrfToken p.lifetime]⟩

/-- The decision on a request, given what the revocation store says of ids. -/
def decide (a : Authenticator) (lookup : String → Lookup) (nonce : Octets 12) (now : Int64)
    (p : Policy) (r : Request) (body : List UInt8) : Decision :=
  match a.liveSession? lookup now r with
  | none => ⟨if p.allowAnonymous then .anonymous else .rejected .unauthenticated, []⟩
  | some s =>
    if !p.isSafe r.method && p.guard.blocks (context r body) s then ⟨.rejected .csrfBlocked, []⟩
    else if p.shouldRenew s.remaining then a.renew nonce now p s
    else ⟨.authenticated s, []⟩

/-- What the store says of ids at a time. -/
def lookupIn (a : Authenticator) (store : Store) (now : Int64) (id : String) : Lookup :=
  store.lookup a.patience now id

def authenticate (a : Authenticator) (store : Store) (nonce : Octets 12) (now : Int64)
    (p : Policy) (r : Request) (body : List UInt8) : Decision :=
  a.decide (a.lookupIn store now) nonce now p r body

/-- Ends the live session of a request, unless the guard takes it for a forgery.
The session is revoked for as long as its cookie would have lived. -/
def logout (a : Authenticator) (store : Store) (now : Int64) (r : Request) (body : List UInt8) :
    Store × LogoutOutcome :=
  match a.liveSession? (a.lookupIn store now) now r with
  | none => (store, .loggedOut false a.issuer.removals)
  | some s =>
    if a.logoutGuard.blocks (context r body) s then (store, .rejected)
    else
      let (store, revoked) := store.revoke a.patience now s.payload.id s.remaining.toUInt64
      (store, .loggedOut revoked a.issuer.removals)

/-- What is random about a new session. -/
structure Fresh where
  id : Octets 16
  csrfToken : Octets 24
  nonce : Octets 12
deriving DecidableEq

def newPayload (fresh : Fresh) (now : Int64) (p : Policy) (provider : String) (user : User) :
    Payload where
  id := Secret.sessionId fresh.id
  provider := provider
  expiresAt := Time.after now p.lifetime
  user := user
  csrfToken := Secret.csrfToken fresh.csrfToken

/-- A new session for a user who has logged in, and its cookies; there is none
if its lifetime would be over at once. -/
def issue (a : Authenticator) (fresh : Fresh) (now : Int64) (p : Policy) (provider : String)
    (user : User) : Except IssueError (Session × List SetCookie) :=
  let payload := newPayload fresh now p provider user
  match Session.ofPayload? payload now with
  | none => .error .overAtOnce
  | some s => .ok (s, [a.issuer.session fresh.nonce payload p.lifetime,
      a.issuer.csrf payload.csrfToken p.lifetime])

end Authenticator

end AuthGateway
