import AuthGateway.Csrf.Guard
import AuthGateway.Http.HeaderRule
import AuthGateway.Settings.Basic

/-!
What a route asks of a request and does to a response, with everything resolved
that settings only name.
-/
namespace AuthGateway

structure Policy where
  guard : Csrf.Guard
  allowAnonymous : Bool
  /-- The lifetime of a new or renewed session, in seconds. -/
  duration : UInt64
  /-- A session is renewed when less than this is left of it, never if zero. -/
  renewWhenLessThan : UInt64
  /-- The methods that the guard does not look at. -/
  safeMethods : List Http.Method
  allowedMethods : List Http.Method
  headerRules : List Http.HeaderRule
deriving DecidableEq

namespace Policy

open Http (Method)

def defaultSafeMethods : List Method := [.get, .head, .options]

def defaultAllowedMethods : List Method :=
  [.get, .head, .options, .post, .put, .patch, .delete]

/-- A policy that asks for a session and has all defaults else. -/
def ofSession (guard : Csrf.Guard) (s : Settings.Session) : Policy where
  guard := guard
  allowAnonymous := false
  duration := s.duration
  renewWhenLessThan := s.renewWhenLessThan
  safeMethods := defaultSafeMethods
  allowedMethods := defaultAllowedMethods
  headerRules := []

def isSafe (p : Policy) (m : Method) : Bool :=
  p.safeMethods.contains m

def isAllowed (p : Policy) (m : Method) : Bool :=
  p.allowedMethods.contains m

def lifetime (p : Policy) : Int64 :=
  Time.ofSeconds p.duration

/-- Whether a session with so many seconds left is due for renewal. -/
def shouldRenew (p : Policy) (remaining : Int64) : Bool :=
  let threshold := Time.ofSeconds p.renewWhenLessThan
  0 < threshold && remaining < threshold

end Policy

end AuthGateway
