import AuthGateway.Json.Node
import AuthGateway.Time

/-!
What the gateway seals into cookies: the session of a user, and the state that
a login carries from its start to its end. Both are records with a JSON form in
a fixed field order.
-/
namespace AuthGateway

/-- An identity as a login produced it, with further attributes by name. -/
structure User where
  id : String
  mappings : Dictionary String
deriving DecidableEq

namespace User

def toJson (u : User) : Json.Value :=
  .object [("id", .string u.id),
    ("mappings", .object (u.mappings.entries.map fun e => (e.1, .string e.2)))]

def ofJson? (n : Json.Node) : Option User := do
  let r ← n.record? ["id", "mappings"]
  return ⟨← r.required? "id" (·.text?), ← r.default? "mappings" .empty (·.dictionary?)⟩

end User

/-- The content of a session cookie; `expiresAt` is in epoch seconds. -/
structure Payload where
  id : String
  provider : String
  expiresAt : Int64
  user : User
  csrfToken : String
deriving DecidableEq

namespace Payload

def toJson (p : Payload) : Json.Value :=
  .object [("id", .string p.id), ("provider", .string p.provider),
    ("expires_at", .integer p.expiresAt.toInt), ("user", p.user.toJson),
    ("csrf_token", .string p.csrfToken)]

def ofJson? (n : Json.Node) : Option Payload := do
  let r ← n.record? ["id", "provider", "expires_at", "user", "csrf_token"]
  return ⟨← r.required? "id" (·.text?), ← r.required? "provider" (·.text?),
    ← r.required? "expires_at" (·.int64?), ← r.required? "user" User.ofJson?,
    ← r.required? "csrf_token" (·.text?)⟩

end Payload

structure LoginState where
  provider : String
  returnUrl : Option String
  nonce : String
deriving DecidableEq

namespace LoginState

def toJson (s : LoginState) : Json.Value :=
  .object [("provider", .string s.provider),
    ("return_url", (s.returnUrl.map Json.Value.string).getD .null), ("nonce", .string s.nonce)]

def ofJson? (n : Json.Node) : Option LoginState := do
  let r ← n.record? ["provider", "return_url", "nonce"]
  return ⟨← r.required? "provider" (·.text?), ← r.optional? "return_url" (·.text?),
    ← r.required? "nonce" (·.text?)⟩

end LoginState

end AuthGateway
