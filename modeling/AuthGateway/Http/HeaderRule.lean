import AuthGateway.Http.Headers

/-!
Rules on response headers. A rule gives a name one value or takes the name
away, and rules are applied in order, so that the last rule of a name counts.
-/
namespace AuthGateway.Http

inductive HeaderRule where
  | set (name : HeaderName) (value : HeaderValue)
  | remove (name : HeaderName)
deriving DecidableEq

namespace HeaderRule

inductive ReadError where
  | invalidName (name : String)
  | invalidValue (name : String)
deriving DecidableEq

def ReadError.message : ReadError → String
  | .invalidName name => "invalid response header name '" ++ name ++ "'"
  | .invalidValue name => "invalid value for response header '" ++ name ++ "'"

/-- The configured value that takes a header away. -/
def removalMarker : String := "<<remove>>"

def ofEntry (name value : String) : Except ReadError HeaderRule :=
  match HeaderName.ofText? name with
  | none => .error (.invalidName name)
  | some n =>
    if value = removalMarker then .ok (.remove n)
    else
      match HeaderValue.ofText? value with
      | none => .error (.invalidValue name)
      | some v => .ok (.set n v)

def name : HeaderRule → HeaderName
  | .set n _ => n
  | .remove n => n

def value? : HeaderRule → Option HeaderValue
  | .set _ v => some v
  | .remove _ => none

def apply (r : HeaderRule) (h : Headers) : Headers :=
  match r with
  | .set n v => h.set n v
  | .remove n => h.remove n

def applyAll (rules : List HeaderRule) (h : Headers) : Headers :=
  rules.foldl (fun h r => r.apply h) h

end HeaderRule

end AuthGateway.Http
