import AuthGateway.Gateway
import AuthGateway.Proofs.Decision
import AuthGateway.Proofs.Ledger

/-!
Runs of a gateway with a ledger. Sessions are issued, requests are decided on,
callers log out and the ledger is cleaned up, in any order, while the time does
not go back. A history keeps what matters for what comes next: the store, the
time, and the payloads of all session cookies that were made. Requests are
honest in that no session cookie opens to anything but one of these payloads.
-/
namespace AuthGateway

open Http (Request)
open Revocation (Lookup Ledger Sizing Store StoreError)

namespace Authenticator

def renewal? (a : Authenticator) (lookup : String → Lookup) (now : Int64) (p : Policy)
    (r : Request) (body : List UInt8) : Option Payload :=
  (a.liveSession? lookup now r).bind fun s =>
    if !p.isSafe r.method && p.guard.blocks (context r body) s then none
    else if p.shouldRenew s.remaining then some (s.renewed (Time.after now p.lifetime))
    else none

variable {a : Authenticator} {lookup : String → Lookup} {nonce : Octets 12} {now : Int64}
  {p : Policy} {r : Request} {body : List UInt8}

/-- The cookies of a decision are those of the renewed payload. -/
theorem decide_cookies (a : Authenticator) (lookup : String → Lookup) (nonce : Octets 12)
    (now : Int64) (p : Policy) (r : Request) (body : List UInt8) :
    (a.decide lookup nonce now p r body).cookies =
      ((a.renewal? lookup now p r body).map fun q =>
        [a.issuer.session nonce q p.lifetime, a.issuer.csrf q.csrfToken p.lifetime]).getD [] := by
  unfold decide renewal?
  cases a.liveSession? lookup now r with
  | none => rfl
  | some s =>
      simp only [Option.bind_some]
      split
      · rfl
      · split
        · rfl
        · rfl

theorem renewal?_of_due {s : Session} (hlive : a.IsLive lookup now r s)
    (hpass : PassesGuard p r body s) (hdue : IsDue p s) :
    a.renewal? lookup now p r body = some (s.renewed (Time.after now p.lifetime)) := by
  have hrenew : p.shouldRenew s.remaining = true := (Policy.shouldRenew_iff p s.remaining).2 hdue
  simp only [renewal?, liveSession?_eq_some_iff.2 hlive, Option.bind_some, hpass.not_blocked,
    hrenew, Bool.false_eq_true, if_false, if_true]

theorem exists_live_of_renewal? {q : Payload} (h : a.renewal? lookup now p r body = some q) :
    ∃ s, a.IsLive lookup now r s ∧ q = s.renewed (Time.after now p.lifetime) := by
  obtain ⟨s, hs, hq⟩ := Option.bind_eq_some_iff.1 h
  refine ⟨s, liveSession?_eq_some_iff.1 hs, ?_⟩
  split at hq
  · cases hq
  · split at hq
    · exact (Option.some.inj hq).symm
    · cases hq

end Authenticator

inductive Event where
  | issue (fresh : Authenticator.Fresh) (p : Policy) (provider : String) (user : User)
  | authenticate (nonce : Octets 12) (p : Policy) (r : Request) (body : List UInt8)
  | logout (r : Request) (body : List UInt8)
  | cleanup

/-- The store and the time, and the payloads of all session cookies made so far. -/
structure History where
  store : Store
  clock : Int64
  made : List Payload

namespace History

/-- What a ledger has been opened with, and cookies that are around already. -/
def opened (sizing : Sizing) (now : Int64) (entries : Dictionary Int64) (made : List Payload) :
    History :=
  ⟨.ledger (.ofEntries sizing now entries), now, made⟩

end History

namespace Gateway

def after (g : Gateway) (h : History) (now : Int64) : Event → History
  | .issue fresh p provider user =>
    match g.authenticator.issue fresh now p provider user with
    | .ok (s, _) => { h with clock := now, made := s.payload :: h.made }
    | .error _ => { h with clock := now }
  | .authenticate _ p r body =>
    { h with
      clock := now
      made := (g.authenticator.renewal? (g.authenticator.lookupIn h.store now) now p r body).toList
        ++ h.made }
  | .logout r body => { h with clock := now, store := (g.authenticator.logout h.store now r body).1 }
  | .cleanup =>
    match h.store.cleanup now with
    | .ok (store, _) => { h with clock := now, store }
    | .error _ => { h with clock := now }

/-- A request whose session cookie opens, if it does, to a payload that was made. -/
def IsHonest (g : Gateway) (h : History) (r : Request) : Prop :=
  ∀ q, g.authenticator.Presents r q → q ∈ h.made

/-- What an event needs: new ids are new, and requests are honest. -/
def Accepts (g : Gateway) (h : History) : Event → Prop
  | .issue fresh _ _ _ => ∀ q ∈ h.made, q.id ≠ Secret.sessionId fresh.id
  | .authenticate _ _ r _ => g.IsHonest h r
  | .logout r _ => g.IsHonest h r
  | .cleanup => True

structure Permits (g : Gateway) (h : History) (now : Int64) (e : Event) : Prop where
  nonneg : 0 ≤ now
  inOrder : h.clock ≤ now
  accepted : g.Accepts h e

inductive Reaches (g : Gateway) (h : History) : History → Prop where
  | refl : Reaches g h h
  | step {h' : History} (hr : Reaches g h h') {now : Int64} {e : Event}
      (hp : g.Permits h' now e) : Reaches g h (g.after h' now e)

variable {g : Gateway} {h : History} {now : Int64} {r : Request} {body : List UInt8}

theorem Reaches.trans {h' h'' : History} (hr : g.Reaches h h') (hr' : g.Reaches h' h'') :
    g.Reaches h h'' := by
  induction hr' with
  | refl => exact hr
  | step _ hp ih => exact .step ih hp

end Gateway

namespace Authenticator

open Revocation.Ledger (standsAt expiry later)

variable {store : Store}

/-- Beside a sound ledger, a session stands if its id has no entry that has not
expired. -/
theorem standing_iff_of_sound (hs : store.IsSound) (a : Authenticator) (now : Int64) (id : String) :
    (a.lookupIn store now id = .notRevoked ∨
        a.lookupIn store now id = .unknown ∧ a.failurePolicy = .failOpen) ↔
      standsAt now (store.entry? id) = false := by
  rw [lookupIn, Store.lookup_of_sound hs]
  cases standsAt now (store.entry? id) <;> simp

/-- A logout that the guard lets pass revokes the live session of the request. -/
theorem logout_of_live (hs : store.IsSound) {a : Authenticator} {now : Int64} {r : Request}
    {body : List UInt8} {s : Session} (hlive : a.IsLive (a.lookupIn store now) now r s)
    (hguard : a.logoutGuard.blocks (context r body) s = false) :
    ∃ store', a.logout store now r body = (store', .loggedOut true a.issuer.removals) ∧
      store'.IsSound ∧ ∀ id, store'.entry? id =
        if id = s.payload.id then
          some (later (store.entry? s.payload.id) (expiry now s.remaining.toUInt64))
        else store.entry? id := by
  obtain ⟨store', hrevoke, hsound, hentry⟩ :=
    Store.revoke_of_sound hs a.patience now s.payload.id s.remaining.toUInt64
  refine ⟨store', ?_, hsound, hentry⟩
  simp only [logout, liveSession?_eq_some_iff.2 hlive, hguard, Bool.false_eq_true, if_false,
    hrevoke]

/-- A logout revokes the live session of the request, or leaves the store as it is. -/
theorem logout_of_sound (hs : store.IsSound) (a : Authenticator) (now : Int64) (r : Request)
    (body : List UInt8) :
    (∃ s store', a.IsLive (a.lookupIn store now) now r s ∧
        a.logout store now r body = (store', .loggedOut true a.issuer.removals) ∧
        store'.IsSound ∧ ∀ id, store'.entry? id =
          if id = s.payload.id then
            some (later (store.entry? s.payload.id) (expiry now s.remaining.toUInt64))
          else store.entry? id) ∨
      (a.logout store now r body).1 = store ∧
        ∀ cookies, (a.logout store now r body).2 ≠ .loggedOut true cookies := by
  cases hlive : a.liveSession? (a.lookupIn store now) now r with
  | none =>
      refine .inr ?_
      simp [logout, hlive]
  | some s =>
      cases hguard : a.logoutGuard.blocks (context r body) s with
      | true =>
          refine .inr ?_
          simp [logout, hlive, hguard]
      | false =>
          have hs' := liveSession?_eq_some_iff.1 hlive
          obtain ⟨store', hlogout, hsound, hentry⟩ := logout_of_live hs hs' hguard
          exact .inl ⟨s, store', hs', hlogout, hsound, hentry⟩

theorem issue_eq (a : Authenticator) (fresh : Fresh) (now : Int64) (p : Policy)
    (provider : String) (user : User) :
    a.issue fresh now p provider user =
      match Session.ofPayload? (newPayload fresh now p provider user) now with
      | none => .error .overAtOnce
      | some s => .ok (s, [
          a.issuer.session fresh.nonce (newPayload fresh now p provider user) p.lifetime,
          a.issuer.csrf (newPayload fresh now p provider user).csrfToken p.lifetime]) := by
  rfl

theorem issue_payload {a : Authenticator} {fresh : Fresh} {now : Int64} {p : Policy}
    {provider : String} {user : User} {s : Session} {cookies : List Http.SetCookie}
    (h : a.issue fresh now p provider user = .ok (s, cookies)) :
    s.payload = newPayload fresh now p provider user := by
  rw [issue_eq] at h
  generalize newPayload fresh now p provider user = q at h ⊢
  cases hs : Session.ofPayload? q now with
  | none =>
      rw [hs] at h
      exact nomatch h
  | some s' =>
      rw [hs] at h
      obtain ⟨rfl, -⟩ := Prod.mk.inj (Except.ok.inj h)
      exact (Session.ofPayload?_eq_some_iff.1 hs).2.1

end Authenticator

namespace Gateway

variable {g : Gateway} {h : History} {now : Int64}

theorem after_logout (g : Gateway) (h : History) (now : Int64) (r : Request) (body : List UInt8) :
    g.after h now (.logout r body) =
      { h with clock := now, store := (g.authenticator.logout h.store now r body).1 } := by
  rfl

theorem after_issue_eq (g : Gateway) (h : History) (now : Int64) (fresh : Authenticator.Fresh)
    (p : Policy) (provider : String) (user : User) :
    g.after h now (.issue fresh p provider user) =
      match g.authenticator.issue fresh now p provider user with
      | .ok (s, _) => { h with clock := now, made := s.payload :: h.made }
      | .error _ => { h with clock := now } := by
  rfl

theorem after_issue (g : Gateway) (h : History) (now : Int64) (fresh : Authenticator.Fresh)
    (p : Policy) (provider : String) (user : User) :
    ∃ made, g.after h now (.issue fresh p provider user) =
        { h with clock := now, made := made ++ h.made } ∧
      ∀ q ∈ made, q.id = Secret.sessionId fresh.id := by
  rw [after_issue_eq]
  cases hissue : g.authenticator.issue fresh now p provider user with
  | error e => exact ⟨[], rfl, by simp⟩
  | ok result =>
      refine ⟨[result.1.payload], rfl, ?_⟩
      intro q hq
      rw [List.mem_singleton.1 hq, Authenticator.issue_payload hissue]
      rfl

theorem after_issue_of_lt (g : Gateway) (h : History) {now : Int64} {fresh : Authenticator.Fresh}
    {p : Policy} {provider : String} {user : User} {q : Payload}
    (hq : Authenticator.newPayload fresh now p provider user = q) (hlt : now < q.expiresAt) :
    g.after h now (.issue fresh p provider user) =
      { h with clock := now, made := q :: h.made } := by
  obtain ⟨s, hs⟩ := Session.exists_ofPayload? hlt
  have hissue := g.authenticator.issue_eq fresh now p provider user
  rw [hq, hs] at hissue
  rw [after_issue_eq, hissue, ← (Session.ofPayload?_eq_some_iff.1 hs).2.1]

/-- A session that is due gets a second cookie, and the first one stays around. -/
theorem after_authenticate_of_due {r : Request} {body : List UInt8} {p : Policy} {s : Session}
    (hlive : g.authenticator.IsLive (g.authenticator.lookupIn h.store now) now r s)
    (hpass : Authenticator.PassesGuard p r body s) (hdue : Authenticator.IsDue p s)
    (nonce : Octets 12) :
    g.after h now (.authenticate nonce p r body) =
      { h with clock := now, made := s.renewed (Time.after now p.lifetime) :: h.made } := by
  have hrenewal : g.authenticator.renewal? (g.authenticator.lookupIn h.store now) now p r body =
      some (s.renewed (Time.after now p.lifetime)) :=
    Authenticator.renewal?_of_due hlive hpass hdue
  have hafter : g.after h now (.authenticate nonce p r body) =
      { h with
        clock := now
        made := (g.authenticator.renewal? (g.authenticator.lookupIn h.store now) now p r
          body).toList ++ h.made } := by
    rfl
  rw [hafter, hrenewal]
  rfl

theorem after_cleanup (g : Gateway) (hs : h.store.IsSound) (now : Int64) :
    ∃ store, g.after h now .cleanup = { h with clock := now, store } ∧ store.IsSound ∧
      ∀ id, store.entry? id = (h.store.entry? id).filter fun t => decide (now ≤ t) := by
  obtain ⟨store, purged, hcleanup, hsound, hentry⟩ := Store.cleanup_of_sound hs now
  have hafter : g.after h now .cleanup =
      match h.store.cleanup now with
      | .ok (store, _) => { h with clock := now, store }
      | .error _ => { h with clock := now } := by
    rfl
  refine ⟨store, ?_, hsound, hentry⟩
  rw [hafter, hcleanup]

/-! What an event does to a sound history. -/

theorem clock_after (hs : h.store.IsSound) (now : Int64) (e : Event) :
    (g.after h now e).clock = now := by
  cases e with
  | issue fresh p provider user =>
      obtain ⟨made, hafter, -⟩ := g.after_issue h now fresh p provider user
      rw [hafter]
  | authenticate nonce p r body => rfl
  | logout r body => rfl
  | cleanup =>
      obtain ⟨store, hafter, -, -⟩ := g.after_cleanup hs now
      rw [hafter]

/-- No event makes a store unsound. -/
theorem sound_after (hs : h.store.IsSound) (now : Int64) (e : Event) :
    (g.after h now e).store.IsSound := by
  cases e with
  | issue fresh p provider user =>
      obtain ⟨made, hafter, -⟩ := g.after_issue h now fresh p provider user
      rw [hafter]
      exact hs
  | authenticate nonce p r body => exact hs
  | logout r body =>
      rcases Authenticator.logout_of_sound hs g.authenticator now r body with
        ⟨s, store', -, hlogout, hsound, -⟩ | ⟨hsame, -⟩
      · rw [after_logout, hlogout]
        exact hsound
      · rw [after_logout, hsame]
        exact hs
  | cleanup =>
      obtain ⟨store, hafter, hsound, -⟩ := g.after_cleanup hs now
      rw [hafter]
      exact hsound

theorem isSound_opened (sizing : Sizing) (start : Int64) (entries : Dictionary Int64)
    (made : List Payload) : (History.opened sizing start entries made).store.IsSound :=
  ⟨_, rfl, Ledger.isSound_ofEntries sizing start entries⟩

theorem sound_of_reaches {h' : History} (hs : h.store.IsSound) (hr : g.Reaches h h') :
    h'.store.IsSound := by
  induction hr with
  | refl => exact hs
  | step _ _ ih => exact sound_after ih _ _

/-- Cookies that were made stay around. -/
theorem made_subset_after (hs : h.store.IsSound) (now : Int64) (e : Event) :
    ∀ q ∈ h.made, q ∈ (g.after h now e).made := by
  intro q hq
  cases e with
  | issue fresh p provider user =>
      obtain ⟨made, hafter, -⟩ := g.after_issue h now fresh p provider user
      rw [hafter]
      exact List.mem_append_right _ hq
  | authenticate nonce p r body => exact List.mem_append_right _ hq
  | logout r body => exact hq
  | cleanup =>
      obtain ⟨store, hafter, -, -⟩ := g.after_cleanup hs now
      rw [hafter]
      exact hq

/-- A new cookie has the id of a new session, or that of a live one. -/
theorem mem_made_after (hs : h.store.IsSound) {e : Event} {q : Payload}
    (hq : q ∈ (g.after h now e).made) :
    q ∈ h.made ∨
      (∃ fresh p provider user, e = .issue fresh p provider user ∧
        q.id = Secret.sessionId fresh.id) ∨
      ∃ nonce p r body s, e = .authenticate nonce p r body ∧
        g.authenticator.IsLive (g.authenticator.lookupIn h.store now) now r s ∧
        q.id = s.payload.id := by
  -- a login and a renewal are what makes cookies
  cases e with
  | issue fresh p provider user =>
      obtain ⟨made, hafter, hnew⟩ := g.after_issue h now fresh p provider user
      rw [hafter] at hq
      cases List.mem_append.1 hq with
      | inl hmade => exact .inr (.inl ⟨fresh, p, provider, user, rfl, hnew q hmade⟩)
      | inr hold => exact .inl hold
  | authenticate nonce p r body =>
      cases List.mem_append.1 hq with
      | inl hnew =>
          obtain ⟨s, hs, rfl⟩ := Authenticator.exists_live_of_renewal? (Option.mem_toList.1 hnew)
          exact .inr (.inr ⟨nonce, p, r, body, s, rfl, hs, rfl⟩)
      | inr hold => exact .inl hold
  | logout r body => exact .inl hq
  | cleanup =>
      obtain ⟨store, hafter, -, -⟩ := g.after_cleanup hs now
      rw [hafter] at hq
      exact .inl hq

/-- The entry of an id stays, unless it has expired and is dropped, or a live
session of this id is logged out. -/
theorem entry?_after (hs : h.store.IsSound) (now : Int64) (e : Event) (id : String) :
    (g.after h now e).store.entry? id = h.store.entry? id ∨
      (g.after h now e).store.entry? id =
        (h.store.entry? id).filter (fun t => decide (now ≤ t)) ∨
      ∃ r body s, e = .logout r body ∧
        g.authenticator.IsLive (g.authenticator.lookupIn h.store now) now r s ∧
        s.payload.id = id := by
  cases e with
  | issue fresh p provider user =>
      obtain ⟨made, hafter, -⟩ := g.after_issue h now fresh p provider user
      rw [hafter]
      exact .inl rfl
  | authenticate nonce p r body => exact .inl rfl
  | logout r body =>
      rcases Authenticator.logout_of_sound hs g.authenticator now r body with
        ⟨s, store', hlive, hlogout, -, hentry⟩ | ⟨hsame, -⟩
      -- a logout touches the entry of one id
      · by_cases hid : id = s.payload.id
        · exact .inr (.inr ⟨r, body, s, rfl, hlive, hid.symm⟩)
        · rw [after_logout, hlogout]
          exact .inl ((hentry id).trans (if_neg hid))
      · rw [after_logout, hsame]
        exact .inl rfl
  | cleanup =>
      obtain ⟨store, hafter, -, hentry⟩ := g.after_cleanup hs now
      rw [hafter]
      exact .inr (.inl (hentry id))

end Gateway

end AuthGateway
