import AuthGateway.Csrf.Origin
import AuthGateway.Csrf.Strategy
import AuthGateway.Http.Message
import AuthGateway.Session.Basic
import AuthGateway.Session.Cookies
import AuthGateway.Text.Form

/-!
Guards against forged requests. A guard looks at what a request says of its
CSRF token and its origin, and blocks it or lets it pass. A request without a
session has nothing to forge and always passes.
-/
namespace AuthGateway.Csrf

/-- What a request says of its token and its origin. -/
structure Context where
  headerToken : Option String := none
  parameterToken : Option String := none
  cookieToken : Option String := none
  origin : Option String := none
  referer : Option String := none
deriving DecidableEq

namespace Context

def tokenHeader : Http.HeaderName := ⟨"x-csrf-token"⟩

def tokenParameter : String := "CSRFToken"

def formType : String := "application/x-www-form-urlencoded"

def ofRequest (r : Http.Request) : Context where
  headerToken := r.headers.text? tokenHeader
  parameterToken := Form.first? tokenParameter (Utf8.encode r.query)
  cookieToken := Http.requestCookie? r.headers CookieIssuer.csrfName
  origin := r.headers.text? .origin
  referer := r.headers.text? .referer

/-- Whether the body of a request is a form, parameters of the type aside. -/
def hasForm (r : Http.Request) : Bool :=
  match r.headers.text? .contentType with
  | none => false
  | some s =>
    Ascii.sameIgnoringCase (String.ofList (Blank.trimChars (Split.before ';' s.toList))) formType

/-- Takes the token from a form in the body if the query has none. -/
def withFormBody (c : Context) (r : Http.Request) (body : List UInt8) : Context :=
  if c.parameterToken.isNone && hasForm r then
    { c with parameterToken := Form.first? tokenParameter body }
  else c

end Context

inductive Guard where
  | none
  | doubleSubmit
  /-- Knows the gateway's own URL. -/
  | sameSiteStrict (own : Url)
deriving DecidableEq

namespace Guard

def strategy : Guard → Strategy
  | .none => .none
  | .doubleSubmit => .doubleSubmitCookie
  | .sameSiteStrict _ => .sameSiteStrictCookie

def ofStrategy (own : Url) : Strategy → Guard
  | .none => .none
  | .doubleSubmitCookie => .doubleSubmit
  | .sameSiteStrictCookie => .sameSiteStrict own

/-- The token in the header, or else the one in query or form, is the session's. -/
def echoesToken (c : Context) (s : Session) : Bool :=
  match c.headerToken.orElse fun _ => c.parameterToken with
  | some token => Secret.equal token s.payload.csrfToken
  | .none => false

/-- The CSRF cookie holds the session's token, and no other origin is claimed. -/
def keepsSite (own : Url) (c : Context) (s : Session) : Bool :=
  match c.cookieToken with
  | some token => !isForeign c.origin c.referer own && Secret.equal token s.payload.csrfToken
  | .none => false

def blocks (g : Guard) (c : Context) (s : Session) : Bool :=
  match g with
  | .none => false
  | .doubleSubmit => !echoesToken c s
  | .sameSiteStrict own => !keepsSite own c s

def blocksAny (g : Guard) (c : Context) : Option Session → Bool
  | .none => false
  | some s => g.blocks c s

end Guard

end AuthGateway.Csrf
