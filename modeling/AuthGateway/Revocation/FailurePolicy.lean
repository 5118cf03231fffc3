/-!
What becomes of a session when nobody can tell whether it was revoked.
-/
namespace AuthGateway.Revocation

inductive FailurePolicy where
  | failClosed
  | failOpen
deriving DecidableEq

namespace FailurePolicy

def name : FailurePolicy → String
  | .failClosed => "fail-closed"
  | .failOpen => "fail-open"

def ofName? (s : String) : Option FailurePolicy :=
  [failClosed, failOpen].find? fun x => x.name == s

end FailurePolicy

end AuthGateway.Revocation
