import AuthGateway.Http.Cookie
import AuthGateway.Http.Message
import AuthGateway.Json.Value

/-!
The replies that the gateway makes itself. Those that refuse a request never
say why. A reply that would need a header value that cannot be written becomes
a failure of the gateway.
-/
namespace AuthGateway.Http

inductive Refusal where
  | badRequest
  | unauthorized
  | notFound
  | methodNotAllowed
  | internalError
  | badGateway
deriving DecidableEq

namespace Refusal

def status : Refusal → Nat
  | .badRequest => 400
  | .unauthorized => 401
  | .notFound => 404
  | .methodNotAllowed => 405
  | .internalError => 500
  | .badGateway => 502

def code : Refusal → String
  | .badRequest => "invalid_request"
  | .unauthorized => "unauthorized"
  | .notFound => "not_found"
  | .methodNotAllowed => "method_not_allowed"
  | .internalError => "server_error"
  | .badGateway => "bad_gateway"

def description : Refusal → String
  | .badRequest => "The request is malformed or invalid"
  | .unauthorized => "Authentication is required to access this resource"
  | .notFound => "No route matches the requested path"
  | .methodNotAllowed => "The request method is not allowed for this route"
  | .internalError => "An internal server error occurred"
  | .badGateway => "Failed to connect to upstream server"

end Refusal

namespace Response

def typed (mime : String) : Headers :=
  ⟨[(.contentType, ⟨Utf8.encode mime⟩)]⟩

def ofJson (status : Nat) (v : Json.Value) : Response :=
  ⟨status, typed "application/json", Utf8.encode v.render⟩

def ofText (status : Nat) (text : String) : Response :=
  ⟨status, typed "text/plain; charset=utf-8", Utf8.encode text⟩

def refuseWith (r : Refusal) (code description : Option String) : Response :=
  ofJson r.status (.object [("error", .string (code.getD r.code)),
    ("error_description", .string (description.getD r.description))])

def refuse (r : Refusal) : Response :=
  refuseWith r none none

/-- What a reply becomes that cannot be written. -/
def unwritable : Response :=
  ofText 500 "failed to parse header value"

/-- Appends a header whose value has to be writable. -/
def withHeader? (r : Response) (name : HeaderName) (value : String) : Option Response :=
  (HeaderValue.ofText? value).map fun v => { r with headers := r.headers.append name v }

/-- Sets cookies, which have to be writable. -/
def withCookies? (r : Response) (cookies : List SetCookie) : Option Response :=
  cookies.foldlM (fun r c => r.withHeader? .setCookie c.render) r

/-- Sets cookies if they are writable. -/
def withCookies (r : Response) (cookies : List SetCookie) : Response :=
  (r.withCookies? cookies).getD unwritable

def redirect (target : String) (cookies : List SetCookie) : Response :=
  (((⟨302, .empty, []⟩ : Response).withCookies? cookies).bind fun r =>
    r.withHeader? .location target).getD unwritable

def ok (v : Json.Value) (cookies : List SetCookie) : Response :=
  (ofJson 200 v).withCookies cookies

end Response

end AuthGateway.Http
