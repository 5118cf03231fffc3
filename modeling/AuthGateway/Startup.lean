import AuthGateway.Gateway

/-!
The start of a gateway. The store of revocations is opened first, and only then
are the settings validated and the key is looked for.
-/
namespace AuthGateway

open Revocation (BackendError Store)

inductive StartError where
  | store (e : BackendError)
  | configuration (e : ConfigurationError)
deriving DecidableEq

structure Started where
  gateway : Gateway
  store : Store
  files : Files

/-- Starts a gateway. `locate` says where a configured path leads, and `fresh`
is the key to take if a new one is needed. -/
def Settings.start (s : Settings) (files : Files) (locate : String → String) (now : Int64)
    (fresh : Key) : Except StartError Started :=
  match Store.ofSettings s.revocation files locate now with
  | .error e => .error (.store e)
  | .ok (store, files) =>
    match Gateway.ofSettings s files fresh with
    | .error e => .error (.configuration e)
    | .ok (gateway, files) => .ok ⟨gateway, store, files⟩

end AuthGateway
