import AuthGateway.Csrf.Strategy
import AuthGateway.Files
import AuthGateway.Http.HeaderRule
import AuthGateway.Key
import AuthGateway.Revocation.FailurePolicy
import AuthGateway.Settings.Basic
import AuthGateway.Url.Parse

/-!
What can be wrong with settings. A problem is one thing that the operator has
to mend; an error stops the start of the gateway, and one kind of error is a
list of problems.
-/
namespace AuthGateway

inductive KeyProblem where
  | unreadable (e : Key.ReadError)
  /-- The key file can be neither read nor written. -/
  | inaccessible (e : FileError)
deriving DecidableEq

def KeyProblem.message : KeyProblem → String
  | .unreadable e => e.message
  | .inaccessible e => e.message

inductive ProfileProblem where
  | unknownStrategy (name : String)
  | invalidMethod (name : String)
  /-- A method that cannot be read, where it is not said which. -/
  | unreadableMethod
  | noMethods
  | header (e : Http.HeaderRule.ReadError)
deriving DecidableEq

def unknownStrategyMessage (name : String) : String :=
  "unknown CSRF protection strategy '" ++ name ++ "'"

def ProfileProblem.message : ProfileProblem → String
  | .unknownStrategy name => unknownStrategyMessage name
  | .invalidMethod name => "invalid HTTP method '" ++ name ++ "'"
  | .unreadableMethod => "invalid HTTP method"
  | .noMethods => "allowed_methods must not be empty"
  | .header e => e.message

inductive Problem where
  | baseUrl (text : String)
  | shortDuration
  | longRenewal
  | unknownBackend (name : String)
  | unknownFailurePolicy (name : String)
  /-- The failure policy alone, where its section is not named. -/
  | unresolvedFailurePolicy (name : String)
  | falsePositiveRate
  | logoutStrategy (name : String)
  | profile (name : String) (p : ProfileProblem)
  | unknownProfile (route profile : String)
  | upstreamUrl (route text : String)
  | relativePrefix (route : String)
deriving DecidableEq

def Problem.message : Problem → String
  | .baseUrl text =>
    "invalid base URL '" ++ text ++ "': must be an absolute http or https URL"
  | .shortDuration => "session.duration_seconds must be at least 60"
  | .longRenewal =>
    "session.renew_when_less_than_seconds must be smaller than session.duration_seconds"
  | .unknownBackend name =>
    "revocation.backend must be 'persistent' or 'memory', got '" ++ name ++ "'"
  | .unknownFailurePolicy name =>
    "revocation.failure_policy must be 'fail-closed' or 'fail-open', got '" ++ name ++ "'"
  | .unresolvedFailurePolicy name => "unknown revocation failure policy '" ++ name ++ "'"
  | .falsePositiveRate => "revocation.false_positive_rate must be between 0 and 1"
  | .logoutStrategy name => "logout: " ++ unknownStrategyMessage name
  | .profile name p => "security profile '" ++ name ++ "': " ++ p.message
  | .unknownProfile route name =>
    "route '" ++ route ++ "' references unknown security profile '" ++ name ++ "'"
  | .upstreamUrl route text =>
    "route '" ++ route ++ "' has an invalid upstream URL '" ++ text ++ "'"
  | .relativePrefix route => "route '" ++ route ++ "': path_prefix must start with '/'"

inductive ConfigurationError where
  | unknownCsrfStrategy (name : String)
  | unknownSecurityProfile (route profile : String)
  | invalidBaseUrl (text : String)
  | invalidUpstreamUrl (route text : String)
  | invalidKey (reason : KeyProblem)
  | invalid (problems : List Problem)
deriving DecidableEq

def ConfigurationError.message : ConfigurationError → String
  | .unknownCsrfStrategy name => unknownStrategyMessage name
  | .unknownSecurityProfile route profile => (Problem.unknownProfile route profile).message
  | .invalidBaseUrl text => (Problem.baseUrl text).message
  | .invalidUpstreamUrl route text => (Problem.upstreamUrl route text).message
  | .invalidKey reason => "invalid session encryption key: " ++ reason.message
  | .invalid problems =>
    "invalid configuration:\n  - " ++ String.intercalate "\n  - " (problems.map Problem.message)

def Csrf.Strategy.resolve (name : String) : Except ConfigurationError Csrf.Strategy :=
  match Csrf.Strategy.ofName? name with
  | some s => .ok s
  | .none => .error (.unknownCsrfStrategy name)

def Revocation.FailurePolicy.resolve (name : String) :
    Except ConfigurationError Revocation.FailurePolicy :=
  match Revocation.FailurePolicy.ofName? name with
  | some p => .ok p
  | .none => .error (.invalid [.unresolvedFailurePolicy name])

/-- The gateway's own public URL, which has to be http or https with a host. -/
def Settings.publicUrl (s : Settings) : Except ConfigurationError Url :=
  match Url.parse s.application.baseUrl with
  | .error _ => .error (.invalidBaseUrl s.application.baseUrl)
  | .ok url =>
    if (url.scheme = .http ∨ url.scheme = .https) ∧ url.hostText?.isSome then .ok url
    else .error (.invalidBaseUrl s.application.baseUrl)

end AuthGateway
