import AuthGateway.Http.Cookie
import AuthGateway.Key
import AuthGateway.Session.Payload
import AuthGateway.Token

/-!
The gateway's own cookies: the sealed session, the CSRF token for scripts to
read, and the sealed state of a login. They are made and read with one key, and
none of them is passed on to an upstream.
-/
namespace AuthGateway

/-- Makes and reads cookies. `secure` holds where the gateway is reached by https. -/
structure CookieIssuer where
  key : Key
  secure : Bool
deriving DecidableEq

namespace CookieIssuer

open Http (SetCookie SameSite Headers)

def sessionName : String := "session"

def csrfName : String := "csrf"

def loginStateName : String := "state"

def loginStatePath : String := "/auth"

structure Options where
  httpOnly : Bool := true
  sameSite : Option SameSite := some .strict
  path : String := "/"
  maxAge : Int64 := 3600

def build (i : CookieIssuer) (name value : String) (o : Options) : SetCookie where
  name := name
  value := value
  httpOnly := o.httpOnly
  secure := i.secure
  sameSite := o.sameSite
  path := some o.path
  maxAge := some o.maxAge
  removal := false

def buildSealed (i : CookieIssuer) (nonce : Octets 12) (name : String) (v : Json.Value)
    (o : Options) : SetCookie :=
  i.build name (Token.sealJson i.key nonce v) o

/-- The session cookie, which a secure gateway allows in requests from other sites. -/
def session (i : CookieIssuer) (nonce : Octets 12) (p : Payload) (maxAge : Int64) : SetCookie :=
  i.buildSealed nonce sessionName p.toJson
    { sameSite := if i.secure then some .none else none, maxAge }

/-- The CSRF cookie, which scripts may read. -/
def csrf (i : CookieIssuer) (token : String) (maxAge : Int64) : SetCookie :=
  i.build csrfName token { httpOnly := false, maxAge }

/-- The login-state cookie, which lives for a minute. -/
def loginState (i : CookieIssuer) (nonce : Octets 12) (s : LoginState) : SetCookie :=
  i.buildSealed nonce loginStateName s.toJson
    { sameSite := some .lax, path := loginStatePath, maxAge := 60 }

def removal (i : CookieIssuer) (name path : String) : SetCookie :=
  { i.build name "" { sameSite := none, path, maxAge := 0 } with removal := true }

def removals (i : CookieIssuer) : List SetCookie :=
  [i.removal sessionName "/", i.removal csrfName "/"]

def loginStateRemoval (i : CookieIssuer) : SetCookie :=
  i.removal loginStateName loginStatePath

def readPayload (i : CookieIssuer) (h : Headers) : Except Token.OpenError (Option Payload) :=
  match Http.requestCookie? h sessionName with
  | none => .ok none
  | some token => (Token.openJson i.key token Payload.ofJson?).map some

def readLoginState (i : CookieIssuer) (h : Headers) : Option LoginState :=
  (Http.requestCookie? h loginStateName).bind fun token =>
    (Token.openJson i.key token LoginState.ofJson?).toOption

def isOwnName (name : List Char) : Bool :=
  [sessionName, csrfName, loginStateName].any fun own => own.toList == name

/-- A piece of a cookie header that is passed on: there is something in it, and
what stands before its first equals sign is no name of the gateway's. -/
def isForwarded (piece : List Char) : Bool :=
  !piece.isEmpty && !isOwnName (Blank.trimChars (Split.before '=' piece))

/-- The text of a cookie header without the gateway's cookies, if any is left. -/
def withoutOwn? (header : String) : Option String :=
  match ((Split.pieces ';' header.toList).map Blank.trimChars).filter isForwarded with
  | [] => none
  | pieces => some (String.ofList (Split.join [';', ' '] pieces))

end CookieIssuer

end AuthGateway
