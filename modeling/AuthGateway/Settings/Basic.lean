import AuthGateway.Decimal.Shortest
import AuthGateway.Text.Dictionary

/-!
The settings of a gateway, with the default of every field that has one. They
are what an operator writes down; names and URLs in them are still plain text.
-/
namespace AuthGateway

namespace Settings

structure Application where
  host : String := "0.0.0.0"
  port : UInt16 := 8080
  baseUrl : String := "http://localhost:8080"

/-- Durations are in seconds. A session is renewed when less than
`renewWhenLessThan` is left of it, and never if that is zero. -/
structure Session where
  duration : UInt64 := 3600
  renewWhenLessThan : UInt64 := 300
  secret : String := ""
  keyFile : Option String := none

structure Revocation where
  backend : String := "persistent"
  path : String := "revocation.redb"
  cleanupInterval : UInt64 := 300
  lookupTimeoutMs : UInt64 := 250
  failurePolicy : String := "fail-closed"
  expectedInsertions : UInt64 := 100000
  falsePositiveRate : Float := 0.001

structure Logout where
  csrfProtection : String := "samesite-strict-cookie"
  redirectUrl : String := "/"
  allowedReturnHosts : List String := []

structure Logging where
  level : String := "info"

/-- What routes of one kind have in common. -/
structure SecurityProfile where
  name : String
  csrfProtection : String := "double-submit-cookie"
  csrfSafeMethods : List String := ["GET", "HEAD", "OPTIONS"]
  allowedMethods : List String := ["GET", "HEAD", "OPTIONS", "POST", "PUT", "PATCH", "DELETE"]
  responseHeaders : Dictionary String := .empty

structure Route where
  name : String
  pathPrefix : String
  upstreamUrl : String
  securityProfile : String
  allowAnonymous : Bool := false

end Settings

structure Settings where
  application : Settings.Application := {}
  session : Settings.Session := {}
  revocation : Settings.Revocation := {}
  logout : Settings.Logout := {}
  logging : Settings.Logging := {}
  securityProfiles : List Settings.SecurityProfile := []
  routes : List Settings.Route := []

namespace Settings

def profile? (s : Settings) (name : String) : Option SecurityProfile :=
  s.securityProfiles.find? fun p => p.name == name

def bindAddress (s : Settings) : String :=
  s.application.host ++ ":" ++ Decimal.natText s.application.port.toNat

end Settings

end AuthGateway
