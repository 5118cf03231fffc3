import AuthGateway.Proofs.ExpiringMap
import AuthGateway.Proofs.Logout
import AuthGateway.Proofs.Refusals

/-!
A logout does what it reports. Beside a ledger that works, a session is either left as it
is, and so is the table, or it is revoked for as long as its cookie lasts, and nothing
else is. A store may do worse than a ledger, and answer a look-up but not the write
behind it: then nobody is told that the session is revoked. Either way the cookies of the
session are taken from whoever is logged out.
-/
namespace AuthGateway

open Http (Request)

namespace Revocation

structure Reply (α : Type) where
  result : Except StoreError α
  delay : Nat

namespace Reply

variable {α : Type}

def inTime? (reply : Reply α) (patience : Nat) : Option α :=
  if patience < reply.delay then none else reply.result.toOption

/-- The reply is an error, or it comes too late. -/
def Fails (reply : Reply α) (patience : Nat) : Prop :=
  (∃ e, reply.result = .error e) ∨ patience < reply.delay

theorem inTime?_eq_none_iff {reply : Reply α} {patience : Nat} :
    reply.inTime? patience = none ↔ reply.Fails patience := by
  unfold inTime? Fails
  by_cases hlate : patience < reply.delay
  · simp [hlate]
  · cases hresult : reply.result <;> simp [hlate, Except.toOption]

end Reply

/-- Any store of revocations: what it says of an id, and what it makes of a write. -/
structure Service (σ : Type) where
  isInvalidated : σ → Int64 → String → Reply Bool
  invalidate : σ → Int64 → String → UInt64 → σ × Reply Unit

namespace Service

variable {σ : Type}

def lookup (service : Service σ) (store : σ) (patience : Nat) (now : Int64) (id : String) :
    Lookup :=
  match (service.isInvalidated store now id).inTime? patience with
  | some true => .revoked
  | some false => .notRevoked
  | none => .unknown

def revoke (service : Service σ) (store : σ) (patience : Nat) (now : Int64) (id : String)
    (ttl : UInt64) : σ × Bool :=
  let result := service.invalidate store now id ttl
  (result.1, (result.2.inTime? patience).isSome)

theorem revoke_of_fails {service : Service σ} {store : σ} {patience : Nat} {now : Int64}
    {id : String} {ttl : UInt64} (h : (service.invalidate store now id ttl).2.Fails patience) :
    (service.revoke store patience now id ttl).2 = false := by
  rw [revoke, Reply.inTime?_eq_none_iff.2 h]
  rfl

def own : Service Store where
  isInvalidated s now id := ⟨s.isInvalidated now id, s.delay⟩
  invalidate s now id ttl :=
    match s.invalidate now id ttl with
    | .ok s' => (s', ⟨.ok (), s.delay⟩)
    | .error e => (s, ⟨.error e, s.delay⟩)

theorem lookup_own (s : Store) (patience : Nat) (now : Int64) (id : String) :
    own.lookup s patience now id = s.lookup patience now id := by
  simp only [lookup, Reply.inTime?, own, Store.lookup]
  by_cases hlate : patience < s.delay
  · simp only [hlate, if_true]
  · simp only [hlate, if_false]
    cases s.isInvalidated now id with
    | error e => rfl
    | ok b => cases b <;> rfl

theorem revoke_own (s : Store) (patience : Nat) (now : Int64) (id : String) (ttl : UInt64) :
    own.revoke s patience now id ttl = s.revoke patience now id ttl := by
  cases hstore : s.invalidate now id ttl with
  | error e => simp [revoke, own, Store.revoke, Reply.inTime?, hstore, Except.toOption]
  | ok s' =>
      by_cases hlate : patience < s.delay
      · simp [revoke, own, Store.revoke, Reply.inTime?, hstore, hlate]
      · simp [revoke, own, Store.revoke, Reply.inTime?, hstore, hlate, Except.toOption,
          Nat.le_of_not_lt hlate]

end Service
end Revocation

namespace Authenticator

open Revocation (Bloom Ledger Register Run Service Sizing Store)
open Revocation.Ledger (standsAt expiry expiry_of_remaining later)

def logoutAt {σ : Type} (a : Authenticator) (service : Service σ) (store : σ) (now : Int64)
    (r : Request) (body : List UInt8) : σ × LogoutOutcome :=
  match a.liveSession? (service.lookup store a.patience now) now r with
  | none => (store, .loggedOut false a.issuer.removals)
  | some s =>
    if a.logoutGuard.blocks (context r body) s then (store, .rejected)
    else
      let (store', revoked) :=
        service.revoke store a.patience now s.payload.id s.remaining.toUInt64
      (store', .loggedOut revoked a.issuer.removals)

variable {a : Authenticator} {l l' : Ledger} {now : Int64} {r : Request} {body : List UInt8}
  {s : Session}

theorem logoutAt_own (a : Authenticator) (store : Store) (now : Int64) (r : Request)
    (body : List UInt8) :
    a.logoutAt Service.own store now r body = a.logout store now r body := by
  have hlookup : Service.own.lookup store a.patience now = a.lookupIn store now :=
    funext (Service.lookup_own store a.patience now)
  simp only [logoutAt, hlookup, Service.revoke_own]
  rfl

section AnyStore

variable {σ : Type} {service : Service σ} {store : σ}

/-- A write that fails or comes too late is not reported as a revocation. -/
theorem logoutAt_of_fails (hs : a.IsLive (service.lookup store a.patience now) now r s)
    (hguard : a.logoutGuard.blocks (context r body) s = false)
    (hwrite : (service.invalidate store now s.payload.id s.remaining.toUInt64).2.Fails
      a.patience) :
    (a.logoutAt service store now r body).2 = .loggedOut false a.issuer.removals := by
  simp only [logoutAt, liveSession?_eq_some_iff.2 hs, hguard, Bool.false_eq_true, if_false,
    Service.revoke_of_fails hwrite]

theorem cookies_of_logoutAt {revoked : Bool} {cookies : List Http.SetCookie}
    (h : (a.logoutAt service store now r body).2 = .loggedOut revoked cookies) :
    cookies = a.issuer.removals := by
  unfold logoutAt at h
  split at h
  · exact (LogoutOutcome.loggedOut.inj h).2.symm
  · split at h
    · cases h
    · exact (LogoutOutcome.loggedOut.inj h).2.symm

end AnyStore

/-- The session that a request presents and that the table of a ledger has no entry
against which has not passed. -/
structure Bears (a : Authenticator) (l : Ledger) (now : Int64) (r : Request) (s : Session) :
    Prop where
  presented : a.Presents r s.payload
  unexpired : now < s.payload.expiresAt
  remaining : s.remaining = Time.span now s.payload.expiresAt
  unrevoked : ∀ t, l.entries.find? s.payload.id = some t → t < now

theorem standsAt_eq_false_iff {old : Option Int64} :
    standsAt now old = false ↔ ∀ t, old = some t → t < now := by
  cases old <;> simp [standsAt, Int64.not_le]

theorem isLive_iff_bears (hl : l.IsSound) :
    a.IsLive (a.lookupIn (.ledger l) now) now r s ↔ a.Bears l now r s := by
  have hstanding (id : String) := standing_iff_of_sound ⟨l, rfl, hl⟩ a now id
  constructor
  · intro h
    exact ⟨h.presented, h.unexpired, h.remaining,
      standsAt_eq_false_iff.1 ((hstanding _).1 h.standing)⟩
  · intro h
    exact ⟨h.presented, h.unexpired, h.remaining,
      (hstanding _).2 (standsAt_eq_false_iff.2 h.unrevoked)⟩

/-- What a table has become by revoking a session for the seconds that it has left. -/
structure HasRevoked (l l' : Ledger) (now : Int64) (s : Session) : Prop where
  isOpen : l'.isOpen = true
  others : ∀ id, id ≠ s.payload.id → l'.entries.find? id = l.entries.find? id
  entry : ∃ t, l'.entries.find? s.payload.id = some t ∧ s.payload.expiresAt ≤ t ∧
    t.toInt = ((l.entries.find? s.payload.id).map fun old =>
      max old.toInt (now.toInt + s.remaining.toInt)).getD (now.toInt + s.remaining.toInt)

/-- From a time that is not negative, the seconds that are left reach the expiry. -/
theorem Bears.expiry_eq (hs : a.Bears l now r s) (hnow : 0 ≤ now) :
    expiry now s.remaining.toUInt64 = s.payload.expiresAt ∧
      now.toInt + s.remaining.toInt = s.payload.expiresAt.toInt := by
  have hmax : Int64.maxValue.toInt = 2 ^ 63 - 1 := rfl
  have hpositive := Int64.le_iff_toInt_le.1 hnow
  have hstop := s.payload.expiresAt.toInt_lt
  rw [Int64.toInt_zero] at hpositive
  rw [hs.remaining]
  refine ⟨expiry_of_remaining hnow hs.unexpired, ?_⟩
  -- nothing is cut off of what is left, since none of it lies before the time zero
  rw [Time.span_toInt_of_lt hs.unexpired]
  omega

/-- A logout that the guard lets pass revokes the session in the table of a ledger. -/
theorem logout_of_bears (hl : l.IsSound) (hnow : 0 ≤ now) (hs : a.Bears l now r s)
    (hguard : a.logoutGuard.blocks (context r body) s = false) :
    ∃ l', a.logout (.ledger l) now r body = (.ledger l', .loggedOut true a.issuer.removals) ∧
      HasRevoked l l' now s := by
  obtain ⟨_, hlogout, ⟨l', rfl, hl'⟩, hentry⟩ :=
    logout_of_live ⟨l, rfl, hl⟩ ((isLive_iff_bears hl).2 hs) hguard
  obtain ⟨hexpiry, hstop⟩ := hs.expiry_eq hnow
  refine ⟨l', hlogout, hl'.isOpen, fun id hid => (hentry id).trans (if_neg hid),
    later (l.entries.find? s.payload.id) s.payload.expiresAt, ?_, ?_, ?_⟩
  · rw [← hexpiry]
    exact (hentry s.payload.id).trans (if_pos rfl)
  · exact Int64.le_iff_toInt_le.2 (Ledger.le_later _ _)
  · rw [Ledger.toInt_later, Option.map_map, hstop]
    rfl

structure ReportsTruly (a : Authenticator) (l : Ledger) (now : Int64) (r : Request)
    (body : List UInt8) : Prop where
  blocked : ∀ s, a.Bears l now r s → a.logoutGuard.blocks (context r body) s = true →
    a.logout (.ledger l) now r body = (.ledger l, .rejected)
  passed : ∀ s, a.Bears l now r s → a.logoutGuard.blocks (context r body) s = false →
    ∃ l', a.logout (.ledger l) now r body = (.ledger l', .loggedOut true a.issuer.removals) ∧
      HasRevoked l l' now s
  absent : (¬ ∃ s, a.Bears l now r s) →
    a.logout (.ledger l) now r body = (.ledger l, .loggedOut false a.issuer.removals)

theorem reportsTruly_of_sound (hl : l.IsSound) (hnow : 0 ≤ now) (a : Authenticator)
    (r : Request) (body : List UInt8) : a.ReportsTruly l now r body where
  blocked := by
    intro s hs hguard
    have hlive := liveSession?_eq_some_iff.2 ((isLive_iff_bears hl).2 hs)
    simp only [logout, hlive, hguard, if_true]
  passed := fun s hs hguard => logout_of_bears hl hnow hs hguard
  absent := by
    intro hnone
    refine Lacks.logout_eq (lacks_iff.2 ?_)
    rintro ⟨s, hs⟩
    exact hnone ⟨s, (isLive_iff_bears hl).1 hs⟩

/-- The two cookies that take the session from a browser. -/
structure Removes (cookies : List Http.SetCookie) : Prop where
  names : cookies.map Http.SetCookie.name = ["session", "csrf"]
  removal : ∀ c ∈ cookies, c.removal = true ∧ c.value = "" ∧ c.path = some "/" ∧ c.maxAge = some 0

theorem removes_removals (i : CookieIssuer) : Removes i.removals where
  names := rfl
  removal := by
    simp [CookieIssuer.removals, CookieIssuer.removal, CookieIssuer.build]

/-- A logout does what it reports. At an open ledger, whatever it has been through, a session
is left as it is or revoked, and the table differs in nothing else. At any store, a write
that fails or comes too late is not reported as a revocation, and whoever is logged out
is told to remove the two cookies of a session. -/
theorem logout_does_what_it_reports (a : Authenticator) (now : Int64) (r : Request)
    (body : List UInt8) :
    (∀ (filter : Bloom) (sizing : Sizing) (stored : Dictionary Int64) (earlier : Run),
      let l := earlier.after Ledger.respond (Ledger.behind filter sizing stored)
      0 ≤ now → l.isOpen = true → a.ReportsTruly l now r body) ∧
    (∀ store, a.logoutAt Service.own store now r body = a.logout store now r body) ∧
    ∀ (σ : Type) (service : Service σ) (store : σ),
      (∀ s, a.IsLive (service.lookup store a.patience now) now r s →
        a.logoutGuard.blocks (context r body) s = false →
        (service.invalidate store now s.payload.id s.remaining.toUInt64).2.Fails a.patience →
        (a.logoutAt service store now r body).2 = .loggedOut false a.issuer.removals) ∧
      ∀ revoked cookies, (a.logoutAt service store now r body).2 = .loggedOut revoked cookies →
        cookies = a.issuer.removals ∧ Removes cookies := by
  refine ⟨?_, fun store => a.logoutAt_own store now r body, fun σ service store => ⟨?_, ?_⟩⟩
  · intro filter sizing stored earlier l hnow hopen
    have hcovered := Ledger.isCovered_after (Ledger.isCovered_behind filter sizing stored) earlier
    exact reportsTruly_of_sound ⟨hopen, hcovered⟩ hnow a r body
  · exact fun s hs hguard hwrite => logoutAt_of_fails hs hguard hwrite
  · intro revoked cookies h
    obtain rfl := cookies_of_logoutAt h
    exact ⟨rfl, removes_removals a.issuer⟩

def readOnly : Service Unit where
  isInvalidated _ _ _ := ⟨.ok false, 0⟩
  invalidate _ _ _ _ := ((), ⟨.error .unavailable, 0⟩)

/-- A ledger takes the revocation of a session, and a store that takes none is found out. -/
theorem logout_reports_at_two_stores :
    let a : Authenticator := ⟨⟨Gateway.plainKey, false⟩, .failClosed, .none, 250⟩
    let r := a.issuer.bearer Gateway.plainFresh.nonce (Gateway.plainPayload 3600)
    let l := Ledger.behind (.empty 64 1 (by decide)) ⟨1, 0.5⟩ .empty
    (∃ l', a.logout (.ledger l) 3400 r [] = (.ledger l', .loggedOut true a.issuer.removals) ∧
        HasRevoked l l' 3400 Gateway.plainSession) ∧
      (a.logoutAt readOnly () 3400 r []).2 = .loggedOut false a.issuer.removals := by
  intro a r l
  obtain ⟨hledger, -, hany⟩ := logout_does_what_it_reports a 3400 r []
  have hpresented : a.Presents r Gateway.plainSession.payload :=
    presents_iff.2 (CookieIssuer.readPayload_bearer (Gateway.plainPayload 3600).read_render)
  have hbears : a.Bears l 3400 r Gateway.plainSession :=
    ⟨hpresented, by decide, by decide, fun t ht => nomatch ht⟩
  refine ⟨(hledger _ _ _ [] (by decide) rfl).passed _ hbears rfl, ?_⟩
  exact (hany Unit readOnly ()).1 Gateway.plainSession
    ⟨hpresented, by decide, by decide, .inl rfl⟩ rfl (.inl ⟨_, rfl⟩)

end Authenticator

end AuthGateway
