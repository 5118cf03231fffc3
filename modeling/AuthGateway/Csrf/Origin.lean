import AuthGateway.Url.Parse

/-!
The origin that a request claims to come from, and whether it is another than
the gateway's. An absent claim, and one that is no URL, are not held against a
request.
-/
namespace AuthGateway.Csrf

/-- A claim counts if it is neither empty nor the word for an unknown origin. -/
def presentClaim (claim : Option String) : Option String :=
  claim.filter fun s => s != "" && s != "null"

/-- The Origin header, or else the Referer. -/
def claimedOrigin (origin referer : Option String) : Option String :=
  (presentClaim origin).orElse fun _ => presentClaim referer

/-- Scheme, host, and port or default port agree. -/
def sameOrigin (a b : Url) : Bool :=
  a.scheme == b.scheme && a.hostText? == b.hostText? && a.port? == b.port?

def isForeign (origin referer : Option String) (target : Url) : Bool :=
  match claimedOrigin origin referer with
  | none => false
  | some claim =>
    match Url.parse claim with
    | .error _ => false
    | .ok url => !sameOrigin url target

end AuthGateway.Csrf
