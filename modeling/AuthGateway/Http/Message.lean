import AuthGateway.Http.Headers
import AuthGateway.Text.Split

/-!
Requests as the gateway sees them and responses as it makes them.
-/
namespace AuthGateway.Http

structure Request where
  method : Method
  path : String
  query : String
  headers : Headers
  body : List UInt8
deriving DecidableEq

/-- Path and query of a request target; a fragment is dropped. -/
def cutTarget (target : String) : String × String :=
  let cs := Split.before '#' target.toList
  let path := Split.before '?' cs
  (if path.isEmpty then "/" else String.ofList path,
    String.ofList ((Split.after? '?' cs).getD []))

structure Response where
  status : Nat
  headers : Headers
  body : List UInt8
deriving DecidableEq

end AuthGateway.Http
