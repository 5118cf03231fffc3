import AuthGateway.Decision
import AuthGateway.Proofs.Cookies
import AuthGateway.Proofs.Ledger

/-!
The decision on a request as a table. A session is live if the first session
cookie opens to a payload that has not expired and whose id the store does not
hold against it; the table says what becomes of a request by whether there is a
live session, whether the method is safe, what the guard says, and how much is
left of the session.
-/
namespace AuthGateway

open Http (Request)
open Revocation (Lookup FailurePolicy Store)

namespace Session

theorem ofPayload?_eq_some_iff {p : Payload} {now : Int64} {s : Session} :
    ofPayload? p now = some s ↔
      now < p.expiresAt ∧ s.payload = p ∧ s.remaining = Time.span now p.expiresAt := by
  simp only [ofPayload?]
  split
  · next h =>
      obtain ⟨payload, remaining, positive⟩ := s
      simp only [Option.some.injEq, Session.mk.injEq, (Time.span_pos_iff _ _).1 h, true_and]
      exact ⟨fun e => ⟨e.1.symm, e.2.symm⟩, fun e => ⟨e.1.symm, e.2.symm⟩⟩
  · next h =>
      have : ¬ now < p.expiresAt := fun hlt => h ((Time.span_pos_iff _ _).2 hlt)
      simp [this]

theorem exists_ofPayload? {p : Payload} {now : Int64} (h : now < p.expiresAt) :
    ∃ s, ofPayload? p now = some s := by
  have hpos := (Time.span_pos_iff now p.expiresAt).2 h
  exact ⟨⟨p, _, hpos⟩, ofPayload?_eq_some_iff.2 ⟨h, rfl, rfl⟩⟩

end Session

namespace Authenticator

/-- The first session cookie of a request opens to a payload. -/
def Presents (a : Authenticator) (r : Request) (p : Payload) : Prop :=
  ∃ token, Http.requestCookie? r.headers CookieIssuer.sessionName = some token ∧
    Token.openJson a.issuer.key token Payload.ofJson? = .ok p

/-- A session that a request presents and that nothing stands against: it has
lifetime left, and its id was looked up and is not revoked. Where the look-up
fails, the failure policy has to be the lenient one. -/
structure IsLive (a : Authenticator) (lookup : String → Lookup) (now : Int64) (r : Request)
    (s : Session) : Prop where
  presented : a.Presents r s.payload
  unexpired : now < s.payload.expiresAt
  remaining : s.remaining = Time.span now s.payload.expiresAt
  standing : lookup s.payload.id = .notRevoked ∨
    lookup s.payload.id = .unknown ∧ a.failurePolicy = .failOpen

variable {a : Authenticator} {lookup : String → Lookup} {nonce : Octets 12} {now : Int64}
  {p : Policy} {r : Request} {body : List UInt8}

theorem presents_iff {q : Payload} :
    a.Presents r q ↔ a.issuer.readPayload r.headers = .ok (some q) := by
  simp only [Presents, CookieIssuer.readPayload]
  cases Http.requestCookie? r.headers CookieIssuer.sessionName with
  | none => simp
  | some token =>
      cases hopen : Token.openJson a.issuer.key token Payload.ofJson? with
      | error e => simp [hopen, Except.map]
      | ok q' => simp [hopen, Except.map]

theorem Presents.unique {q q' : Payload} (h : a.Presents r q) (h' : a.Presents r q') : q = q' := by
  rw [presents_iff] at h h'
  simpa [h] using h'

theorem survives_iff {policy : FailurePolicy} {l : Lookup} :
    survives policy l = true ↔ l = .notRevoked ∨ l = .unknown ∧ policy = .failOpen := by
  cases l <;> simp [survives]

/-- The session that is read off a request is the one it presents, with what is left of it. -/
theorem presentedSession?_eq_some_iff {s : Session} :
    a.presentedSession? now r = some s ↔
      a.Presents r s.payload ∧ now < s.payload.expiresAt ∧
        s.remaining = Time.span now s.payload.expiresAt := by
  simp only [presents_iff, presentedSession?]
  constructor
  · intro h
    split at h
    · next q hq =>
        obtain ⟨hlt, rfl, hrem⟩ := Session.ofPayload?_eq_some_iff.1 h
        exact ⟨hq, hlt, hrem⟩
    · cases h
  · rintro ⟨hread, hlt, hrem⟩
    rw [hread]
    exact Session.ofPayload?_eq_some_iff.2 ⟨hlt, rfl, hrem⟩

theorem liveSession?_eq_some_iff {s : Session} :
    a.liveSession? lookup now r = some s ↔ a.IsLive lookup now r s := by
  rw [liveSession?, Option.filter_eq_some_iff, presentedSession?_eq_some_iff, survives_iff]
  exact ⟨fun h => ⟨h.1.1, h.1.2.1, h.1.2.2, h.2⟩,
    fun h => ⟨⟨h.presented, h.unexpired, h.remaining⟩, h.standing⟩⟩

theorem IsLive.unique {s s' : Session} (h : a.IsLive lookup now r s)
    (h' : a.IsLive lookup now r s') : s = s' := by
  rw [← liveSession?_eq_some_iff] at h h'
  exact Option.some.inj (h.symm.trans h')

/-- A request that presents a payload has a live session exactly if nothing
stands against that one. -/
theorem exists_live_iff_of_presents {q : Payload} (hq : a.Presents r q) :
    (∃ s, a.IsLive lookup now r s) ↔
      now < q.expiresAt ∧ (lookup q.id = .notRevoked ∨
        lookup q.id = .unknown ∧ a.failurePolicy = .failOpen) := by
  constructor
  · rintro ⟨s, hs⟩
    rw [hq.unique hs.presented]
    exact ⟨hs.unexpired, hs.standing⟩
  · rintro ⟨hlt, hstanding⟩
    exact ⟨⟨q, Time.span now q.expiresAt, (Time.span_pos_iff now q.expiresAt).2 hlt⟩, hq, hlt, rfl,
      hstanding⟩

theorem liveSession?_eq_none_iff :
    a.liveSession? lookup now r = none ↔ ¬ ∃ s, a.IsLive lookup now r s := by
  simp only [Option.eq_none_iff_forall_ne_some, ne_eq, liveSession?_eq_some_iff, not_exists]

end Authenticator

namespace Policy

/-- The threshold of renewal stops, as all times do, at the end of the range. -/
theorem shouldRenew_iff (p : Policy) (remaining : Int64) :
    p.shouldRenew remaining = true ↔
      0 < p.renewWhenLessThan.toNat ∧
        remaining.toInt < min (p.renewWhenLessThan.toNat : Int) Int64.maxValue.toInt := by
  have hmax : Int64.maxValue.toInt = 2 ^ 63 - 1 := rfl
  simp only [shouldRenew, Bool.and_eq_true, decide_eq_true_eq, Int64.lt_iff_toInt_lt,
    Int64.toInt_zero, Time.ofSeconds_toInt]
  omega

theorem isSafe_iff (p : Policy) (m : Http.Method) : p.isSafe m = true ↔ m ∈ p.safeMethods := by
  simp [isSafe]

end Policy

namespace Authenticator

/-- The request is let through as far as forgery goes: its method is safe, or the
guard does not block it. -/
def PassesGuard (p : Policy) (r : Request) (body : List UInt8) (s : Session) : Prop :=
  r.method ∈ p.safeMethods ∨ p.guard.blocks (context r body) s = false

def IsDue (p : Policy) (s : Session) : Prop :=
  0 < p.renewWhenLessThan.toNat ∧
    s.remaining.toInt < min (p.renewWhenLessThan.toNat : Int) Int64.maxValue.toInt

structure DecisionTable (a : Authenticator) (lookup : String → Lookup) (now : Int64) (p : Policy)
    (r : Request) (body : List UInt8) (d : Decision) : Prop where
  authenticated : (∃ s, d.outcome = .authenticated s) ↔
    ∃ s, a.IsLive lookup now r s ∧ PassesGuard p r body s
  csrfBlocked : d.outcome = .rejected .csrfBlocked ↔
    ∃ s, a.IsLive lookup now r s ∧ r.method ∉ p.safeMethods ∧
      p.guard.blocks (context r body) s = true
  unauthenticated : d.outcome = .rejected .unauthenticated ↔
    (¬ ∃ s, a.IsLive lookup now r s) ∧ p.allowAnonymous = false
  anonymous : d.outcome = .anonymous ↔
    (¬ ∃ s, a.IsLive lookup now r s) ∧ p.allowAnonymous = true
  cookies : d.cookies ≠ [] ↔
    (∃ s, d.outcome = .authenticated s) ∧ ∃ s, a.IsLive lookup now r s ∧ IsDue p s
  /-- The session is the presented one, but for its lifetime if it is renewed. -/
  identity : ∀ s', d.outcome = .authenticated s' → ∃ s, a.IsLive lookup now r s ∧
    s'.payload = { s.payload with expiresAt := s'.payload.expiresAt } ∧
      (d.cookies = [] → s' = s)

variable {a : Authenticator} {lookup : String → Lookup} {nonce : Octets 12} {now : Int64}
  {p : Policy} {r : Request} {body : List UInt8}

/-! The rows of the table, by what `decide` branches on. -/

theorem decide_of_no_session (h : ¬ ∃ s, a.IsLive lookup now r s) :
    a.decide lookup nonce now p r body =
      ⟨if p.allowAnonymous then .anonymous else .rejected .unauthenticated, []⟩ := by
  simp only [decide, liveSession?_eq_none_iff.2 h]

theorem decide_of_blocked {s : Session} (h : a.IsLive lookup now r s)
    (hg : ¬ PassesGuard p r body s) :
    a.decide lookup nonce now p r body = ⟨.rejected .csrfBlocked, []⟩ := by
  simp only [PassesGuard, not_or, Bool.not_eq_false] at hg
  have hunsafe : p.isSafe r.method = false := by
    rw [← Bool.not_eq_true, Policy.isSafe_iff]
    exact hg.1
  simp only [decide, liveSession?_eq_some_iff.2 h, hunsafe, hg.2, Bool.not_false, Bool.and_true,
    if_true]

theorem PassesGuard.not_blocked {s : Session} (hg : PassesGuard p r body s) :
    (!p.isSafe r.method && p.guard.blocks (context r body) s) = false := by
  cases hg with
  | inl hsafe => simp [(Policy.isSafe_iff p r.method).2 hsafe]
  | inr hguard => simp [hguard]

theorem decide_of_passing {s : Session} (h : a.IsLive lookup now r s)
    (hg : PassesGuard p r body s) :
    a.decide lookup nonce now p r body =
      if p.shouldRenew s.remaining then a.renew nonce now p s else ⟨.authenticated s, []⟩ := by
  simp only [decide, liveSession?_eq_some_iff.2 h, hg.not_blocked]
  simp

theorem renew_outcome (a : Authenticator) (nonce : Octets 12) (now : Int64) (p : Policy)
    (s : Session) : ∃ s', (a.renew nonce now p s).outcome = .authenticated s' ∧
      s'.payload = { s.payload with expiresAt := s'.payload.expiresAt } := by
  refine ⟨_, rfl, ?_⟩
  cases h : Session.ofPayload? (s.renewed (Time.after now p.lifetime)) now with
  | none => rfl
  | some s' =>
      obtain ⟨-, hp, -⟩ := Session.ofPayload?_eq_some_iff.1 h
      simp only [Option.getD_some, hp, Session.renewed]

theorem renew_cookies_ne_nil (a : Authenticator) (nonce : Octets 12) (now : Int64) (p : Policy)
    (s : Session) : (a.renew nonce now p s).cookies ≠ [] := by
  simp [renew]

/-- Whoever passes the guard is let in as the table has it, with a new cookie or without. -/
theorem table_of_passing {d : Decision} {s s' : Session} (hs : a.IsLive lookup now r s)
    (hg : PassesGuard p r body s) (houtcome : d.outcome = .authenticated s')
    (hpayload : s'.payload = { s.payload with expiresAt := s'.payload.expiresAt })
    (hcookies : d.cookies ≠ [] ↔ IsDue p s) (hsame : d.cookies = [] → s' = s) :
    DecisionTable a lookup now p r body d where
  authenticated := iff_of_true ⟨s', houtcome⟩ ⟨s, hs, hg⟩
  csrfBlocked := by
    refine iff_of_false (by simp [houtcome]) fun ⟨t, ht, hunsafe, hblocks⟩ => ?_
    obtain rfl := ht.unique hs
    exact hg.elim hunsafe (by simp [hblocks])
  unauthenticated := iff_of_false (by simp [houtcome]) fun h => h.1 ⟨s, hs⟩
  anonymous := iff_of_false (by simp [houtcome]) fun h => h.1 ⟨s, hs⟩
  cookies := by
    rw [hcookies]
    exact ⟨fun hdue => ⟨⟨s', houtcome⟩, s, hs, hdue⟩, fun ⟨_, t, ht, hdue⟩ => ht.unique hs ▸ hdue⟩
  identity := fun t ht => by
    obtain rfl : s' = t := by simpa [houtcome] using ht
    exact ⟨s, hs, hpayload, hsame⟩

theorem table_of_blocked {s : Session} (hs : a.IsLive lookup now r s)
    (hg : ¬ PassesGuard p r body s) :
    DecisionTable a lookup now p r body ⟨.rejected .csrfBlocked, []⟩ where
  authenticated := iff_of_false (by simp) fun ⟨_, ht, hpass⟩ => hg (ht.unique hs ▸ hpass)
  csrfBlocked := by
    simp only [PassesGuard, not_or, Bool.not_eq_false] at hg
    exact iff_of_true rfl ⟨s, hs, hg⟩
  unauthenticated := iff_of_false (by simp) fun h => h.1 ⟨s, hs⟩
  anonymous := iff_of_false (by simp) fun h => h.1 ⟨s, hs⟩
  cookies := iff_of_false (by simp) (by simp)
  identity := by simp

theorem table_of_no_session (h : ¬ ∃ s, a.IsLive lookup now r s) :
    DecisionTable a lookup now p r body
      ⟨if p.allowAnonymous then .anonymous else .rejected .unauthenticated, []⟩ where
  authenticated := iff_of_false (by split <;> simp) fun ⟨s, hs, _⟩ => h ⟨s, hs⟩
  csrfBlocked := iff_of_false (by split <;> simp) fun ⟨s, hs, _⟩ => h ⟨s, hs⟩
  unauthenticated := by cases hp : p.allowAnonymous <;> simp [h]
  anonymous := by cases hp : p.allowAnonymous <;> simp [h]
  cookies := iff_of_false (by simp) fun ⟨_, s, hs, _⟩ => h ⟨s, hs⟩
  identity := by split <;> simp

/-- A decision is the one of the table, whatever the look-up says. -/
theorem decide_follows_table (a : Authenticator) (lookup : String → Lookup) (nonce : Octets 12)
    (now : Int64) (p : Policy) (r : Request) (body : List UInt8) :
    DecisionTable a lookup now p r body (a.decide lookup nonce now p r body) := by
  by_cases hlive : ∃ s, a.IsLive lookup now r s
  · obtain ⟨s, hs⟩ := hlive
    by_cases hg : PassesGuard p r body s
    · rw [decide_of_passing hs hg]
      split
      · next hdue =>
          obtain ⟨s', houtcome, hpayload⟩ := renew_outcome a nonce now p s
          have hcookies := renew_cookies_ne_nil a nonce now p s
          exact table_of_passing hs hg houtcome hpayload
            (iff_of_true hcookies ((Policy.shouldRenew_iff p s.remaining).1 hdue))
            fun h => absurd h hcookies
      · next hdue =>
          exact table_of_passing hs hg rfl rfl
            (iff_of_false (by simp) fun h => hdue ((Policy.shouldRenew_iff p s.remaining).2 h))
            fun _ => rfl
    · rw [decide_of_blocked hs hg]
      exact table_of_blocked hs hg
  · rw [decide_of_no_session hlive]
    exact table_of_no_session hlive

/-- A request that carries a session is let in exactly if it passes the guard. -/
theorem authenticated_iff_passesGuard {s : Session} (hs : a.IsLive lookup now r s) :
    (∃ s', (a.decide lookup nonce now p r body).outcome = .authenticated s') ↔
      PassesGuard p r body s := by
  rw [(decide_follows_table a lookup nonce now p r body).authenticated]
  constructor
  · rintro ⟨t, ht, hpass⟩
    exact ht.unique hs ▸ hpass
  · intro hpass
    exact ⟨s, hs, hpass⟩

/-- A look-up says what the store answers, if it answers in good time. -/
structure LooksUp (a : Authenticator) (store : Store) (now : Int64) (lookup : String → Lookup) :
    Prop where
  notRevoked : ∀ id, lookup id = .notRevoked ↔
    store.delay ≤ a.patience ∧ store.isInvalidated now id = .ok false
  revoked : ∀ id, lookup id = .revoked ↔
    store.delay ≤ a.patience ∧ store.isInvalidated now id = .ok true
  unknown : ∀ id, lookup id = .unknown ↔
    a.patience < store.delay ∨ ∃ e, store.isInvalidated now id = .error e

theorem looksUp_lookupIn (a : Authenticator) (store : Store) (now : Int64) :
    LooksUp a store now (a.lookupIn store now) := by
  by_cases hlate : a.patience < store.delay
  · have hle : ¬ store.delay ≤ a.patience := by omega
    constructor <;> intro id <;> simp [lookupIn, Store.lookup, hlate, hle]
  · have hle : store.delay ≤ a.patience := by omega
    constructor <;> intro id <;>
      simp only [lookupIn, Store.lookup, hlate, hle, if_false, true_and, false_or] <;>
      rcases store.isInvalidated now id with e | _ | _ <;> simp

/-- Whatever a look-up says, the decision is the one of the table. A request is
decided by what the store answers in time, and a look-up that fails lets nobody
in unless the failure policy is the lenient one. -/
theorem trust_decision (a : Authenticator) (nonce : Octets 12) (now : Int64) (p : Policy)
    (r : Request) (body : List UInt8) :
    (∀ lookup, DecisionTable a lookup now p r body (a.decide lookup nonce now p r body) ∧
      (a.failurePolicy = .failClosed → (∀ q, a.Presents r q → lookup q.id = .unknown) →
        (¬ ∃ s, (a.decide lookup nonce now p r body).outcome = .authenticated s) ∧
          (a.decide lookup nonce now p r body).cookies = [])) ∧
      ∀ store, LooksUp a store now (a.lookupIn store now) ∧
        DecisionTable a (a.lookupIn store now) now p r body
          (a.authenticate store nonce now p r body) := by
  refine ⟨fun lookup => ?_, fun store => ?_⟩
  · have table := decide_follows_table a lookup nonce now p r body
    refine ⟨table, fun hclosed hfails => ?_⟩
    have hnone : ¬ ∃ s, (a.decide lookup nonce now p r body).outcome = .authenticated s := by
      rw [table.authenticated]
      rintro ⟨s, hs, -⟩
      have hunknown := hfails _ hs.presented
      cases hs.standing with
      | inl h => simp [hunknown] at h
      | inr h => simp [hclosed] at h
    refine ⟨hnone, Decidable.not_not.1 fun hne => ?_⟩
    exact hnone (table.cookies.1 hne).1
  · exact ⟨looksUp_lookupIn a store now, decide_follows_table a _ nonce now p r body⟩

/-- The threshold of renewal is cut off at the end of the range: a session that
has all the range left is not renewed, however high the configured threshold. -/
theorem threshold_is_cut_off :
    ¬ ∀ (a : Authenticator) (lookup : String → Lookup) (nonce : Octets 12) (now : Int64)
        (p : Policy) (r : Request) (body : List UInt8),
      ((a.decide lookup nonce now p r body).cookies ≠ [] ↔
        (∃ s, (a.decide lookup nonce now p r body).outcome = .authenticated s) ∧
          ∃ s, a.IsLive lookup now r s ∧ 0 < p.renewWhenLessThan.toNat ∧
            s.remaining.toInt < p.renewWhenLessThan.toNat) := by
  intro h
  let a : Authenticator := ⟨⟨⟨List.replicate 32 0, rfl⟩, true⟩, .failClosed, .none, 250⟩
  let nonce : Octets 12 := ⟨List.replicate 12 0, rfl⟩
  let p : Policy := ⟨.none, false, 18446744073709551615, 9223372036854775808, [.get], [.get], []⟩
  let q : Payload := ⟨"s", "local", Int64.maxValue, ⟨"alice", .empty⟩, "t"⟩
  let s : Session := ⟨q, Int64.maxValue, by decide⟩
  have hread : (Json.parse? (Utf8.encode q.toJson.render)).bind Payload.ofJson? = some q := by
    decide +kernel
  have hs : a.IsLive (fun _ => .notRevoked) 0 (a.issuer.bearer nonce q) s :=
    ⟨presents_iff.2 (CookieIssuer.readPayload_bearer hread), by decide, by decide, .inl rfl⟩
  have table := decide_follows_table a (fun _ => .notRevoked) nonce 0 p (a.issuer.bearer nonce q) []
  have hauth := table.authenticated.2 ⟨s, hs, .inl (by decide)⟩
  -- without the end of the range the cookie would be replaced, however much is left
  have hcookies := (h a (fun _ => .notRevoked) nonce 0 p (a.issuer.bearer nonce q) []).2
    ⟨hauth, s, hs, by decide, by decide⟩
  obtain ⟨-, t, ht, hdue⟩ := table.cookies.1 hcookies
  obtain rfl := ht.unique hs
  exact absurd hdue.2 (by decide)

end Authenticator

end AuthGateway
