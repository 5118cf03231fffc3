import AuthGateway.Revocation.Ledger
import AuthGateway.Settings.Basic

/-!
Revocation stores as the gateway uses them: a ledger, in memory or in a file,
or one that misbehaves, because it always fails or because it is slow. The
gateway waits only so long for an answer.
-/
namespace AuthGateway.Revocation

inductive Store where
  | ledger (l : Ledger)
  | failing
  /-- Revokes nothing, after so many milliseconds. -/
  | slow (delay : Nat)

/-- What a lookup in good time says of a session. -/
inductive Lookup where
  | revoked
  | notRevoked
  /-- The store failed or did not answer in time. -/
  | unknown
deriving DecidableEq

namespace Store

def delay : Store → Nat
  | .slow d => d
  | _ => 0

def isInvalidated (s : Store) (now : Int64) (id : String) : Except StoreError Bool :=
  match s with
  | .ledger l => l.isInvalidated now id
  | .failing => .error .unavailable
  | .slow _ => .ok false

def invalidate (s : Store) (now : Int64) (id : String) (ttl : UInt64) : Except StoreError Store :=
  match s with
  | .ledger l => (l.invalidate now id ttl).map .ledger
  | .failing => .error .unavailable
  | .slow d => .ok (.slow d)

def cleanup (s : Store) (now : Int64) : Except StoreError (Store × Nat) :=
  match s with
  | .ledger l => (l.cleanup now).map fun (l, n) => (.ledger l, n)
  | .failing => .error .unavailable
  | .slow d => .ok (.slow d, 0)

def close : Store → Store
  | .ledger l => .ledger l.close
  | s => s

/-- What the gateway learns if it waits for so many milliseconds. -/
def lookup (s : Store) (patience : Nat) (now : Int64) (id : String) : Lookup :=
  if patience < s.delay then .unknown
  else
    match s.isInvalidated now id with
    | .ok true => .revoked
    | .ok false => .notRevoked
    | .error _ => .unknown

/-- Revokes an id, and says whether that succeeded within so many milliseconds. -/
def revoke (s : Store) (patience : Nat) (now : Int64) (id : String) (ttl : UInt64) : Store × Bool :=
  match s.invalidate now id ttl with
  | .ok s' => (s', s.delay ≤ patience)
  | .error _ => (s, false)

/-- Cleans up so many times in a row, until the store turns out to be closed. -/
def sweep (s : Store) (now : Int64) : Nat → Store × List (Except StoreError Nat)
  | 0 => (s, [])
  | n + 1 =>
    match s.cleanup now with
    | .ok (s', purged) =>
      let (last, results) := sweep s' now n
      (last, .ok purged :: results)
    | .error .closed => (s, [.error .closed])
    | .error e =>
      let (last, results) := sweep s now n
      (last, .error e :: results)

def isFinished (s : Store) (now : Int64) : Bool :=
  match s.cleanup now with
  | .error .closed => true
  | _ => false

end Store

/-- Opens the ledger in a file, which is made with its directory if it is missing.
A ledger that was written before is given by its entries; other content is none. -/
def Ledger.openFile (files : Files) (path : String) (sizing : Sizing) (now : Int64) :
    Except StoreError (Ledger × Files) :=
  let path := Files.Path.ofText path
  match files.makeDirectories path.parent with
  | (_, .error e) => .error (.noDirectory e)
  | (between, .ok ()) =>
    match between.writable path with
    | .error e => .error (.inaccessible e)
    | .ok (_, _ :: _) => .error .notALedger
    | .ok (place, []) => .ok (ofEntries sizing now .empty, between.put place (.file []))

inductive BackendError where
  | unknown (name : String)
  | cannotOpen (path : String) (e : StoreError)
deriving DecidableEq

/-- The message names the path as it was opened. -/
def BackendError.message : BackendError → String
  | .unknown name => "Unknown revocation backend '" ++ name ++ "'"
  | .cannotOpen path _ => "Failed to open revocation ledger at " ++ path

def Sizing.ofSettings (r : Settings.Revocation) : Sizing :=
  ⟨r.expectedInsertions.toNat, r.falsePositiveRate⟩

/-- Opens the configured store; `locate` says where a configured path leads. -/
def Store.ofSettings (r : Settings.Revocation) (files : Files) (locate : String → String)
    (now : Int64) : Except BackendError (Store × Files) :=
  if r.backend = "persistent" then
    match Ledger.openFile files r.path (.ofSettings r) now with
    | .ok (l, files) => .ok (.ledger l, files)
    | .error e => .error (.cannotOpen (locate r.path) e)
  else if r.backend = "memory" then .ok (.ledger (.empty (.ofSettings r)), files)
  else .error (.unknown r.backend)

end AuthGateway.Revocation
