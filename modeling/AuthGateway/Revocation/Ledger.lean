import AuthGateway.Files
import AuthGateway.Revocation.Bloom
import AuthGateway.Time

/-!
The ledger of revoked sessions: for each id the time up to which it is revoked.
An entry is live as long as that time has not passed, and a cleanup drops the
others. A Bloom filter in front spares looking up ids that were never revoked.
-/
namespace AuthGateway.Revocation

inductive StoreError where
  | closed
  /-- The storage does not answer. -/
  | unavailable
  /-- The directory of the storage cannot be made. -/
  | noDirectory (e : FileError)
  /-- The storage cannot be opened. -/
  | inaccessible (e : FileError)
  /-- What is stored is no ledger. -/
  | notALedger
  /-- Another ledger has the storage open. -/
  | alreadyOpen
deriving DecidableEq

def StoreError.message : StoreError → String
  | .closed => "revocation store is closed"
  | .unavailable => "revocation store I/O error: revocation backend unavailable"
  | .noDirectory e => "revocation store I/O error: " ++ e.message
  | .inaccessible e => "revocation storage error: " ++ e.message
  | .notALedger => "revocation storage error: not a ledger"
  | .alreadyOpen => "revocation storage error: already open"

/-- For how many ids a filter is made, beyond those that it starts with. -/
structure Sizing where
  expectedInsertions : Nat
  falsePositiveRate : Float

structure Ledger where
  entries : Dictionary Int64
  filter : Bloom
  sizing : Sizing
  isOpen : Bool

namespace Ledger

def isLive (now : Int64) (e : String × Int64) : Bool :=
  now ≤ e.2

def filterOf (sizing : Sizing) (entries : Dictionary Int64) : Bloom :=
  (Bloom.ofCapacity (entries.size + sizing.expectedInsertions) sizing.falsePositiveRate).insertAll
    (entries.entries.map Prod.fst)

/-- An open ledger of the live ones among some entries. -/
def ofEntries (sizing : Sizing) (now : Int64) (entries : Dictionary Int64) : Ledger :=
  let live := entries.filter (isLive now)
  ⟨live, filterOf sizing live, sizing, true⟩

def empty (sizing : Sizing) : Ledger :=
  ofEntries sizing 0 .empty

/-- The time up to which a revocation lasts. -/
def expiry (now : Int64) (ttl : UInt64) : Int64 :=
  Time.after now (Time.ofSeconds ttl)

def later (old : Option Int64) (new : Int64) : Int64 :=
  match old with
  | some t => max t new
  | none => new

/-- Revokes an id for some time, or longer if it already is. -/
def invalidate (l : Ledger) (now : Int64) (id : String) (ttl : UInt64) :
    Except StoreError Ledger :=
  if l.isOpen then
    .ok { l with
      entries := l.entries.insert id (later (l.entries.find? id) (expiry now ttl))
      filter := l.filter.insert id }
  else .error .closed

def isInvalidated (l : Ledger) (now : Int64) (id : String) : Except StoreError Bool :=
  if l.isOpen then
    .ok (l.filter.mayContain id &&
      match l.entries.find? id with
      | some t => now ≤ t
      | none => false)
  else .error .closed

/-- Drops the entries that have expired, and says how many. -/
def cleanup (l : Ledger) (now : Int64) : Except StoreError (Ledger × Nat) :=
  if l.isOpen then
    let cleaned := ofEntries l.sizing now l.entries
    .ok (cleaned, l.entries.size - cleaned.entries.size)
  else .error .closed

def deleteAll (l : Ledger) : Except StoreError (Ledger × Nat) :=
  if l.isOpen then .ok (empty l.sizing, l.entries.size) else .error .closed

def close (l : Ledger) : Ledger :=
  { l with isOpen := false }

/-- Opens what is stored again, once nobody has it open. -/
def reopen (l : Ledger) (now : Int64) : Except StoreError Ledger :=
  if l.isOpen then .error .alreadyOpen else .ok (ofEntries l.sizing now l.entries)

end Ledger

end AuthGateway.Revocation
