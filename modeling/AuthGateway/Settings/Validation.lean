import AuthGateway.Settings.Problem

/-!
Validation of settings: every problem that shows without opening a file or a
connection, in a fixed order.
-/
namespace AuthGateway.Settings

def problemIf (condition : Bool) (p : Problem) : List Problem :=
  if condition then [p] else []

def baseUrlProblems (s : Settings) : List Problem :=
  problemIf (!s.publicUrl.isOk) (.baseUrl s.application.baseUrl)

def sessionProblems (s : Settings.Session) : List Problem :=
  problemIf (s.duration < 60) .shortDuration ++
    problemIf (s.duration ≤ s.renewWhenLessThan) .longRenewal

def backends : List String := ["persistent", "memory"]

def revocationProblems (r : Settings.Revocation) : List Problem :=
  problemIf (!backends.contains r.backend) (.unknownBackend r.backend) ++
    problemIf (AuthGateway.Revocation.FailurePolicy.ofName? r.failurePolicy).isNone
      (.unknownFailurePolicy r.failurePolicy) ++
    problemIf (!(0.0 < r.falsePositiveRate && r.falsePositiveRate < 1.0)) .falsePositiveRate

def logoutProblems (l : Settings.Logout) : List Problem :=
  problemIf (Csrf.Strategy.ofName? l.csrfProtection).isNone (.logoutStrategy l.csrfProtection)

def headerProblems (entry : String × String) : List ProfileProblem :=
  match Http.HeaderRule.ofEntry entry.1 entry.2 with
  | .ok _ => []
  | .error e => [.header e]

def profileProblems (p : SecurityProfile) : List ProfileProblem :=
  (if (Csrf.Strategy.ofName? p.csrfProtection).isNone then [.unknownStrategy p.csrfProtection]
    else []) ++
  ((p.csrfSafeMethods ++ p.allowedMethods).filter fun m => (Http.Method.ofText? m).isNone).map
    .invalidMethod ++
  (if p.allowedMethods.isEmpty then [.noMethods] else []) ++
  p.responseHeaders.entries.flatMap headerProblems

def routeProblems (s : Settings) (r : Settings.Route) : List Problem :=
  problemIf (s.profile? r.securityProfile).isNone (.unknownProfile r.name r.securityProfile) ++
    problemIf (!(Url.parse r.upstreamUrl).isOk) (.upstreamUrl r.name r.upstreamUrl) ++
    problemIf (r.pathPrefix.toList.head? != some '/') (.relativePrefix r.name)

/-- Every problem, in the order in which they are reported. -/
def problems (s : Settings) : List Problem :=
  baseUrlProblems s ++ sessionProblems s.session ++ revocationProblems s.revocation ++
    logoutProblems s.logout ++
    s.securityProfiles.flatMap (fun p => (profileProblems p).map (.profile p.name)) ++
    s.routes.flatMap (routeProblems s)

def validate (s : Settings) : Except ConfigurationError Unit :=
  match s.problems with
  | [] => .ok ()
  | ps => .error (.invalid ps)

end AuthGateway.Settings
