import AuthGateway.Settings.Basic
import AuthGateway.Toml.Document

/-!
Settings from TOML values. Fields that no section has are ignored, and a field
with a default may be missing.
-/
namespace AuthGateway.Settings

open Toml (Value required? default?)

def word64? (v : Value) : Option UInt64 :=
  (v.natBelow? UInt64.size).map UInt64.ofNat

def word16? (v : Value) : Option UInt16 :=
  (v.natBelow? UInt16.size).map UInt16.ofNat

def Application.ofValue? (v : Value) : Option Application := do
  let d : Application := {}
  let r ← v.fields? ["host", "port", "base_url"]
  return ⟨← default? r "host" d.host (·.text?), ← default? r "port" d.port word16?,
    ← default? r "base_url" d.baseUrl (·.text?)⟩

def Session.ofValue? (v : Value) : Option Session := do
  let d : Session := {}
  let r ← v.fields?
    ["duration_seconds", "renew_when_less_than_seconds", "secret", "key_file"]
  return ⟨← default? r "duration_seconds" d.duration word64?,
    ← default? r "renew_when_less_than_seconds" d.renewWhenLessThan word64?,
    ← default? r "secret" d.secret (·.text?),
    ← default? r "key_file" d.keyFile fun v => v.text?.map some⟩

def Revocation.ofValue? (v : Value) : Option Revocation := do
  let d : Revocation := {}
  let r ← v.fields? ["backend", "path", "cleanup_interval_seconds", "lookup_timeout_ms",
    "failure_policy", "expected_insertions", "false_positive_rate"]
  return ⟨← default? r "backend" d.backend (·.text?), ← default? r "path" d.path (·.text?),
    ← default? r "cleanup_interval_seconds" d.cleanupInterval word64?,
    ← default? r "lookup_timeout_ms" d.lookupTimeoutMs word64?,
    ← default? r "failure_policy" d.failurePolicy (·.text?),
    ← default? r "expected_insertions" d.expectedInsertions word64?,
    ← default? r "false_positive_rate" d.falsePositiveRate (·.number?)⟩

def Logout.ofValue? (v : Value) : Option Logout := do
  let d : Logout := {}
  let r ← v.fields? ["csrf_protection", "redirect_url", "allowed_return_hosts"]
  return ⟨← default? r "csrf_protection" d.csrfProtection (·.text?),
    ← default? r "redirect_url" d.redirectUrl (·.text?),
    ← default? r "allowed_return_hosts" d.allowedReturnHosts (·.list? (·.text?))⟩

def Logging.ofValue? (v : Value) : Option Logging := do
  let d : Logging := {}
  let r ← v.fields? ["level"]
  return ⟨← default? r "level" d.level (·.text?)⟩

def texts? : Value → Option (Dictionary String)
  | .table fields => do
    return .ofList (← fields.mapM fun f => do return (f.1, ← f.2.text?))
  | _ => none

def SecurityProfile.ofValue? (v : Value) : Option SecurityProfile := do
  let d : SecurityProfile := { name := "" }
  let r ← v.fields?
    ["name", "csrf_protection", "csrf_safe_methods", "allowed_methods", "response_headers"]
  return ⟨← required? r "name" (·.text?),
    ← default? r "csrf_protection" d.csrfProtection (·.text?),
    ← default? r "csrf_safe_methods" d.csrfSafeMethods (·.list? (·.text?)),
    ← default? r "allowed_methods" d.allowedMethods (·.list? (·.text?)),
    ← default? r "response_headers" d.responseHeaders texts?⟩

def Route.ofValue? (v : Value) : Option Route := do
  let r ← v.fields?
    ["name", "path_prefix", "upstream_url", "security_profile", "allow_anonymous"]
  return ⟨← required? r "name" (·.text?), ← required? r "path_prefix" (·.text?),
    ← required? r "upstream_url" (·.text?), ← required? r "security_profile" (·.text?),
    ← default? r "allow_anonymous" false (·.flag?)⟩

def ofValue? (v : Value) : Option Settings := do
  let r ← v.fields? ["application", "session", "revocation", "logout", "logging",
    "security_profiles", "routes"]
  return ⟨← default? r "application" {} Application.ofValue?,
    ← default? r "session" {} Session.ofValue?,
    ← default? r "revocation" {} Revocation.ofValue?,
    ← default? r "logout" {} Logout.ofValue?, ← default? r "logging" {} Logging.ofValue?,
    ← default? r "security_profiles" [] (·.list? SecurityProfile.ofValue?),
    ← default? r "routes" [] (·.list? Route.ofValue?)⟩

def ofText? (text : String) : Option Settings :=
  (Toml.parse? text).bind ofValue?

end AuthGateway.Settings
