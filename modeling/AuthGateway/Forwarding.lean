import AuthGateway.Http.Reply
import AuthGateway.Session.Basic
import AuthGateway.Session.Cookies
import AuthGateway.Text.Base64
import AuthGateway.Url.Basic

/-!
What passes between clients and upstreams. Of a request, the headers that
concern one connection only stay behind, as do the gateway's own cookies and
all headers by which a client could pose as somebody; the identity is added by
the gateway. Of a response, only what concerns one connection stays behind.
-/
namespace AuthGateway.Forwarding

open Http (HeaderName HeaderValue Headers)

def connectionHeaders : List String :=
  ["connection", "keep-alive", "proxy-authenticate", "proxy-authorization", "te", "trailers",
    "transfer-encoding", "upgrade"]

/-- The lower case of a character, as far as it is in ASCII; the Kelvin sign is
an upper case of k. -/
def foldChar (c : Char) : Char :=
  if c = '\u212A' then 'k' else Ascii.lowerChar c

def isConnectionHeader (name : String) : Bool :=
  connectionHeaders.contains (String.ofList (name.toList.map foldChar))

structure Filter where
  connectionHeaders : Bool := true
  ownCookies : Bool := true

def identityPrefix : String := "x-auth-request-"

def isIdentityHeader (name : HeaderName) : Bool :=
  identityPrefix.toList.isPrefixOf name.text.toList

def userHeader : HeaderName := ⟨"x-auth-request-user"⟩

def providerHeader : HeaderName := ⟨"x-auth-request-provider"⟩

def isDropped (f : Filter) (name : HeaderName) : Bool :=
  name == .host || isIdentityHeader name ||
    (f.connectionHeaders && isConnectionHeader name.text)

def requestHeader? (f : Filter) (e : HeaderName × HeaderValue) : Option (HeaderName × HeaderValue) :=
  if isDropped f e.1 then none
  else
    match e.2.text? with
    | none => none
    | some text =>
      if e.1 = .cookie ∧ f.ownCookies then
        (CookieIssuer.withoutOwn? text).map fun left => (e.1, ⟨Utf8.encode left⟩)
      else some e

def requestHeaders (f : Filter) (h : Headers) : Headers :=
  ⟨h.entries.filterMap (requestHeader? f)⟩

def areSendable (h : Headers) : Bool :=
  h.entries.all fun e => e.1.isSendable

/-- Adds the identity of a session, which has to be writable. -/
def withIdentity? (h : Headers) : Option Session → Option Headers
  | none => some h
  | some s => do
    let user ← HeaderValue.ofText? s.payload.user.id
    let provider ← HeaderValue.ofText? s.payload.provider
    return (h.append userHeader user).append providerHeader provider

def isReturned (f : Filter) (e : HeaderName × HeaderValue) : Bool :=
  e.1 != .contentLength && !(f.connectionHeaders && isConnectionHeader e.1.text) &&
    e.2.text?.isSome

def responseHeaders (f : Filter) (h : Headers) : Headers :=
  ⟨h.entries.filter (isReturned f)⟩

def plainText? (cs : List Char) : Option (List UInt8) :=
  (Percent.decodeText? (String.ofList cs)).map Utf8.encode

/-- The header by which the user and password of a URL are sent. -/
def credentials? (u : Url) : Option (HeaderName × HeaderValue) := do
  let a ← u.authority
  let user ← plainText? a.username
  let password := a.password.bind plainText?
  if user.isEmpty && password.isNone then none
  else
    return (.authorization, ⟨Utf8.encode ("Basic " ++
      Base64.encodeStandard (user ++ 0x3A :: password.getD []))⟩)

/-- Accepts everything if the client does not say what it accepts. -/
def withAccept (h : Headers) : Headers :=
  if (h.first? .accept).isSome then h else h.append .accept ⟨Utf8.encode "*/*"⟩

structure Outgoing where
  method : Http.Method
  url : Url
  headers : Headers
  body : List UInt8
deriving DecidableEq

inductive Incoming where
  /-- There was no answer. -/
  | nothing
  /-- The answer broke off. -/
  | brokenOff
  | response (r : Http.Response)
deriving DecidableEq

/-- The headers of an upstream request, if they can be sent and the identity is
writable. -/
def upstreamHeaders? (f : Filter) (h : Headers) (session : Option Session) : Option Headers := do
  let passed := requestHeaders f h
  guard (areSendable passed)
  withIdentity? passed session

/-- The request that a client's request becomes, if its headers can be sent and
the URL is one that requests can be sent to. -/
def outgoing? (r : Http.Request) (url : Url) (session : Option Session) : Option Outgoing := do
  guard (url.scheme = .http ∨ url.scheme = .https)
  let headers ← upstreamHeaders? {} r.headers session
  return ⟨r.method, url, withAccept ⟨(credentials? url).toList ++ headers.entries⟩, r.body⟩

def respond (cookies : List Http.SetCookie) : Incoming → Http.Response
  | .nothing => .refuse .badGateway
  | .brokenOff =>
    .ofText 502 "Failed to read upstream response: error decoding response body"
  | .response r =>
    { r with headers := responseHeaders {} r.headers }.withCookies cookies

end AuthGateway.Forwarding
