/-!
The strategies against cross-site request forgery, and their configured names.
-/
namespace AuthGateway.Csrf

inductive Strategy where
  | none
  | doubleSubmitCookie
  | sameSiteStrictCookie
deriving DecidableEq

namespace Strategy

def name : Strategy → String
  | .none => "none"
  | .doubleSubmitCookie => "double-submit-cookie"
  | .sameSiteStrictCookie => "samesite-strict-cookie"

def all : List Strategy := [.none, .doubleSubmitCookie, .sameSiteStrictCookie]

def ofName? (s : String) : Option Strategy :=
  all.find? fun x => x.name == s

theorem ofName?_name (x : Strategy) : ofName? x.name = some x := by
  cases x <;> decide

end Strategy

end AuthGateway.Csrf
