import AuthGateway.Proofs.Mediation

/-!
What a refusal tells. A request may lack a session for many reasons, from a
token that cannot be read to a store that does not answer, and one that has a
session may be taken for a forgery. Whoever is refused learns which of these it
was neither from the decision nor from the response.
-/
namespace AuthGateway

open Http (Request)
open Revocation (Lookup Store)

namespace Authenticator

/-- The reasons why a request has no live session. -/
inductive Lacks (a : Authenticator) (lookup : String → Lookup) (now : Int64) (r : Request) : Prop
  | noCookie (h : Http.requestCookie? r.headers CookieIssuer.sessionName = none)
  /-- The token is malformed, was not sealed with the key, or holds no payload. -/
  | unreadable {token : String} {e : Token.OpenError}
      (h : Http.requestCookie? r.headers CookieIssuer.sessionName = some token)
      (he : Token.openJson a.issuer.key token Payload.ofJson? = .error e)
  | expired {q : Payload} (hq : a.Presents r q) (h : q.expiresAt ≤ now)
  | revoked {q : Payload} (hq : a.Presents r q) (h : lookup q.id = .revoked)
  | unknown {q : Payload} (hq : a.Presents r q) (h : lookup q.id = .unknown)
      (hclosed : a.failurePolicy = .failClosed)

variable {a : Authenticator} {lookup : String → Lookup} {nonce : Octets 12} {now : Int64}
  {p : Policy} {r : Request} {body : List UInt8} {s : Session}

/-- A request with a live session lacks nothing. -/
theorem IsLive.not_lacks (hs : a.IsLive lookup now r s) : ¬ a.Lacks lookup now r := by
  intro h
  have stands : ∀ {q : Payload}, a.Presents r q → now < q.expiresAt ∧
      (lookup q.id = .notRevoked ∨ lookup q.id = .unknown ∧ a.failurePolicy = .failOpen) :=
    fun hq => (exists_live_iff_of_presents hq).1 ⟨s, hs⟩
  obtain ⟨token, htoken, hopen⟩ := hs.presented
  cases h with
  | noCookie h => simp [htoken] at h
  | unreadable h he =>
      obtain rfl : token = _ := Option.some.inj (htoken.symm.trans h)
      simp [hopen] at he
  | expired hq h => exact absurd (stands hq).1 (Int64.not_lt.2 h)
  | revoked hq h => simpa [h] using (stands hq).2
  | unknown hq h hclosed => simpa [h, hclosed] using (stands hq).2

theorem lacks_of_presents {q : Payload} (hq : a.Presents r q)
    (h : ¬ ∃ s, a.IsLive lookup now r s) : a.Lacks lookup now r := by
  rw [exists_live_iff_of_presents hq] at h
  by_cases hlt : now < q.expiresAt
  · cases hlookup : lookup q.id with
    | notRevoked => exact absurd ⟨hlt, .inl hlookup⟩ h
    | revoked => exact .revoked hq hlookup
    | unknown =>
        cases hpolicy : a.failurePolicy with
        | failClosed => exact .unknown hq hlookup hpolicy
        | failOpen => exact absurd ⟨hlt, .inr ⟨hlookup, hpolicy⟩⟩ h
  · exact .expired hq (Int64.not_lt.1 hlt)

/-- The reasons are all there are. -/
theorem lacks_iff : a.Lacks lookup now r ↔ ¬ ∃ s, a.IsLive lookup now r s := by
  constructor
  · rintro h ⟨s, hs⟩
    exact hs.not_lacks h
  · intro hnone
    cases hcookie : Http.requestCookie? r.headers CookieIssuer.sessionName with
    | none => exact .noCookie hcookie
    | some token =>
        cases hopen : Token.openJson a.issuer.key token Payload.ofJson? with
        | error e => exact .unreadable hcookie hopen
        | ok q => exact lacks_of_presents ⟨token, hcookie, hopen⟩ hnone

/-- The decision on a request without a session is a matter of the policy alone. -/
theorem Lacks.decide_eq (h : a.Lacks lookup now r) :
    a.decide lookup nonce now p r body =
      ⟨if p.allowAnonymous then .anonymous else .rejected .unauthenticated, []⟩ :=
  decide_of_no_session (lacks_iff.1 h)

theorem Lacks.logout_eq {store : Store} (h : a.Lacks (a.lookupIn store now) now r) :
    a.logout store now r body = (store, .loggedOut false a.issuer.removals) := by
  simp only [logout, liveSession?_eq_none_iff.2 (lacks_iff.1 h)]

end Authenticator

namespace Gateway

def Routes (g : Gateway) (r : Request) (route : Route) : Prop :=
  ∃ path, Route.normalizePath r.path = .ok path ∧ g.routes.find? path = some route

/-- The reasons to refuse a request on a route: it has no session where one is
asked for, or it has one and looks forged. -/
inductive Distrusts (g : Gateway) (store : Store) (now : Int64) (route : Route) (r : Request) : Prop
  | noSession (h : g.authenticator.Lacks (g.authenticator.lookupIn store now) now r)
      (hp : route.policy.allowAnonymous = false)
  | forgery {s : Session}
      (hs : g.authenticator.IsLive (g.authenticator.lookupIn store now) now r s)
      (hm : r.method ∉ route.policy.safeMethods)
      (hguard : route.policy.guard.blocks (Authenticator.context r r.body) s = true)

structure TellsNothing (g : Gateway) : Prop where
  reasons : ∀ lookup now r,
    g.authenticator.Lacks lookup now r ↔ ¬ ∃ s, g.authenticator.IsLive lookup now r s
  decisions : ∀ p lookup lookup' nonce nonce' now now' r r' body body',
    g.authenticator.Lacks lookup now r → g.authenticator.Lacks lookup' now' r' →
      g.authenticator.decide lookup nonce now p r body =
          g.authenticator.decide lookup' nonce' now' p r' body' ∧
        (g.authenticator.decide lookup nonce now p r body).cookies = []
  logouts : ∀ store store' now now' r r' body body',
    g.authenticator.Lacks (g.authenticator.lookupIn store now) now r →
    g.authenticator.Lacks (g.authenticator.lookupIn store' now') now' r' →
      (g.authenticator.logout store now r body).2 =
          (g.authenticator.logout store' now' r' body').2 ∧
        (g.authenticator.logout store now r body).1 = store
  refused : ∀ route store nonce now r, g.Routes r route → bodyFailure? r = none →
    r.method ∈ route.policy.allowedMethods →
      ((g.planProxy store nonce now r).IsRefusal 401 ↔ g.Distrusts store now route r)
  responses : ∀ route store store' nonce nonce' now now' r r', g.Routes r route →
    g.Routes r' route → (g.planProxy store nonce now r).IsRefusal 401 →
    (g.planProxy store' nonce' now' r').IsRefusal 401 → ∀ upstream upstream',
      (g.planProxy store nonce now r).carryOut upstream =
        (g.planProxy store' nonce' now' r').carryOut upstream'

variable {g : Gateway} {store : Store} {nonce : Octets 12} {now : Int64} {r : Request}
  {route : Route}

theorem Plan.IsRefusal.unique {p : Plan} {status status' : Nat} (h : p.IsRefusal status)
    (h' : p.IsRefusal status') : status = status' := by
  obtain ⟨response, rfl, rfl⟩ := h
  obtain ⟨response', hp, rfl⟩ := h'
  cases hp
  rfl

/-- The reasons to refuse a request are those for which its caller is not trusted. -/
theorem distrusts_iff :
    g.Distrusts store now route r ↔
      ¬ Trusted route (g.decisionOn store nonce now r route).outcome := by
  have table := Authenticator.decide_follows_table g.authenticator
    (g.authenticator.lookupIn store now) nonce now route.policy r r.body
  have hrejected : ¬ Trusted route (g.decisionOn store nonce now r route).outcome ↔
      (g.decisionOn store nonce now r route).outcome = .rejected .unauthenticated ∨
        (g.decisionOn store nonce now r route).outcome = .rejected .csrfBlocked := by
    rw [← isRejected_iff_not_trusted anonymous_allowed]
    cases (g.decisionOn store nonce now r route).outcome with
    | anonymous => simp [Outcome.isRejected]
    | authenticated s => simp [Outcome.isRejected]
    | rejected reason => cases reason <;> simp [Outcome.isRejected]
  rw [hrejected, decisionOn, Authenticator.authenticate, table.unauthenticated, table.csrfBlocked,
    ← Authenticator.lacks_iff]
  constructor
  · intro h
    cases h with
    | noSession h hp => exact .inl ⟨h, hp⟩
    | forgery hs hm hguard => exact .inr ⟨_, hs, hm, hguard⟩
  · rintro (⟨h, hp⟩ | ⟨s, hs, hm, hguard⟩)
    · exact .noSession h hp
    · exact .forgery hs hm hguard

theorem planProxy_of_body (h : bodyFailure? r = none) :
    g.planProxy store nonce now r = g.planForward store nonce now r := by
  rw [planProxy, h]

theorem body_of_refused (h : (g.planProxy store nonce now r).IsRefusal 401) :
    bodyFailure? r = none := by
  cases hbody : bodyFailure? r with
  | none => rfl
  | some failure =>
      have hlarge : failure.status = 413 := by
        rw [bodyFailure?] at hbody
        split at hbody
        · cases hbody
          rfl
        · cases hbody
      have hplan : (g.planProxy store nonce now r).IsRefusal 413 := by
        rw [planProxy, hbody]
        exact ⟨failure, rfl, hlarge⟩
      exact absurd (h.unique hplan) (by decide)

/-- Forwarding refuses with this status only a caller it does not trust. -/
theorem planForward_of_refused (hr : g.Routes r route)
    (h : (g.planForward store nonce now r).IsRefusal 401) :
    ¬ Trusted route (g.decisionOn store nonce now r route).outcome ∧
      g.planForward store nonce now r =
        .respond (underRules route (.refuse .unauthorized)) := by
  obtain ⟨path, hpath, hfind⟩ := hr
  rw [planForward_of_route hpath hfind] at h ⊢
  by_cases hm : r.method ∈ route.policy.allowedMethods
  · by_cases ht : Trusted route (g.decisionOn store nonce now r route).outcome
    · cases planRoute_of_trusted hm ht with
      | inl hgateway => exact absurd (h.unique hgateway) (by decide)
      | inr hask =>
          obtain ⟨o, hplan, -⟩ := hask
          exact absurd hplan (h.ne_ask _ _ _)
    · exact ⟨ht, planRoute_eq_of_not_trusted hm ht⟩
  · exact absurd (h.unique (planRoute_of_not_allowed hm)) (by decide)

theorem carryOut_of_refused (hr : g.Routes r route)
    (h : (g.planProxy store nonce now r).IsRefusal 401)
    (upstream : Forwarding.Outgoing → Forwarding.Incoming) :
    (g.planProxy store nonce now r).carryOut upstream =
      underRules route (.refuse .unauthorized) := by
  have hbody := body_of_refused h
  rw [planProxy_of_body hbody] at h ⊢
  rw [(planForward_of_refused hr h).2]
  rfl

/-- Whoever is refused does not learn why. -/
theorem refusals_tell_nothing (g : Gateway) : g.TellsNothing where
  reasons := fun _ _ _ => Authenticator.lacks_iff
  decisions := by
    intro p lookup lookup' nonce nonce' now now' r r' body body' h h'
    rw [h.decide_eq, h'.decide_eq]
    exact ⟨rfl, rfl⟩
  logouts := by
    intro store store' now now' r r' body body' h h'
    rw [h.logout_eq, h'.logout_eq]
    exact ⟨rfl, rfl⟩
  refused := by
    intro route store nonce now r hr hbody hm
    rw [planProxy_of_body hbody, distrusts_iff]
    constructor
    · intro h
      exact (planForward_of_refused hr h).1
    · intro ht
      obtain ⟨path, hpath, hfind⟩ := hr
      rw [planForward_of_route hpath hfind]
      exact planRoute_of_not_trusted hm ht
  responses := by
    intro route store store' nonce nonce' now now' r r' hr hr' h h' upstream upstream'
    rw [carryOut_of_refused hr h, carryOut_of_refused hr' h']

end Gateway

end AuthGateway
