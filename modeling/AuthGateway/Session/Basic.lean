import AuthGateway.Session.Payload

/-!
A session is a payload with lifetime left. It is made anew for every request
from what the request carries and the time, and nothing of it is stored.
-/
namespace AuthGateway

/-- A payload and the seconds that were left of it when it was looked at. -/
structure Session where
  payload : Payload
  remaining : Int64
  positive : 0 < remaining
deriving DecidableEq

namespace Session

def ofPayload? (p : Payload) (now : Int64) : Option Session :=
  let left := Time.span now p.expiresAt
  if h : 0 < left then some ⟨p, left, h⟩ else none

/-- The payload of a renewed cookie: all the same but the expiry. -/
def renewed (s : Session) (expiresAt : Int64) : Payload :=
  { s.payload with expiresAt }

end Session

end AuthGateway
