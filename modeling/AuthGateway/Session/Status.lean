import AuthGateway.Json.Node

/-!
What the gateway tells about itself and about the caller: the answer to a
health check, and whether the caller has a session.
-/
namespace AuthGateway

structure Health where
  status : String
  service : String
  version : String
deriving DecidableEq

namespace Health

def current : Health := ⟨"ok", "tollgate", "0.1.0"⟩

def toJson (h : Health) : Json.Value :=
  .object [("status", .string h.status), ("service", .string h.service),
    ("version", .string h.version)]

def ofJson? (n : Json.Node) : Option Health := do
  let r ← n.record? ["status", "service", "version"]
  return ⟨← r.required? "status" (·.text?), ← r.required? "service" (·.text?),
    ← r.required? "version" (·.text?)⟩

end Health

inductive SessionState where
  | authenticated
  | anonymous
deriving DecidableEq

namespace SessionState

def name : SessionState → String
  | .authenticated => "authenticated"
  | .anonymous => "anonymous"

def ofName? (s : String) : Option SessionState :=
  if s = "authenticated" then some .authenticated
  else if s = "anonymous" then some .anonymous
  else none

/-- A name alone, or as the only field of an object, with the value null. -/
def ofJson? : Json.Node → Option SessionState
  | .string (some s) => ofName? s
  | .object [(some s, .null)] => ofName? s
  | _ => none

end SessionState

/-- Whether the caller has a session, and for how many seconds yet. -/
structure SessionInformation where
  state : SessionState
  expiresIn : Option Int64
deriving DecidableEq

namespace SessionInformation

def toJson (i : SessionInformation) : Json.Value :=
  .object (("state", .string i.state.name) ::
    match i.expiresIn with
    | some n => [("expires_in", .integer n.toInt)]
    | none => [])

def ofJson? (n : Json.Node) : Option SessionInformation := do
  let r ← n.record? ["state", "expires_in"]
  return ⟨← r.required? "state" SessionState.ofJson?, ← r.optional? "expires_in" (·.int64?)⟩

end SessionInformation

end AuthGateway
