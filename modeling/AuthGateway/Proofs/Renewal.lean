import AuthGateway.Proofs.Configuration
import AuthGateway.Proofs.IssuedSession

/-!
Sliding sessions. A client that comes back in time with the latest cookies it
was given keeps the session of its login. What a visit can change is the expiry
alone, and that only moves forward. The invariant is that the latest cookies
grant a payload of the session; the times are those of an honest clock, which
starts at the epoch and does not go back.
-/
namespace AuthGateway

open Http (Request SetCookie)
open Revocation (Lookup)

structure Visit where
  lookup : String → Lookup
  nonce : Octets 12
  now : Int64
  policy : Policy
  request : Request
  body : List UInt8

def Visit.decision (a : Authenticator) (v : Visit) : Decision :=
  a.decide v.lookup v.nonce v.now v.policy v.request v.body

/-- The time of a client's last visit, and the latest cookies that it was given. -/
structure Client where
  clock : Int64
  cookies : List SetCookie

namespace Client

/-- The client after a visit. A decision without cookies leaves it those it has. -/
def after (a : Authenticator) (c : Client) (v : Visit) : Client :=
  ⟨v.now, if (v.decision a).cookies = [] then c.cookies else (v.decision a).cookies⟩

/-- A visit that a client makes with its latest session cookie, and on which it
is let in. -/
structure Makes (a : Authenticator) (c : Client) (v : Visit) : Prop where
  inOrder : c.clock ≤ v.now
  slides : v.policy.Slides
  presents : ∃ cookie ∈ c.cookies, cookie.name = CookieIssuer.sessionName ∧
    Http.requestCookie? v.request.headers CookieIssuer.sessionName = some cookie.value
  letIn : ∃ s, (v.decision a).outcome = .authenticated s

inductive Reaches (a : Authenticator) (c : Client) : Client → Prop
  | refl : Reaches a c c
  | visit {c' : Client} (hr : Reaches a c c') {v : Visit} (hv : c'.Makes a v) :
      Reaches a c (c'.after a v)

/-- The latest cookies of a client grant a payload of the session of its login. -/
structure Holds (a : Authenticator) (login : Payload) (c : Client) (session csrf : SetCookie)
    (q : Payload) : Prop where
  clock : 0 ≤ c.clock
  cookies : c.cookies = [session, csrf]
  granted : a.issuer.Grants session csrf q
  same : q.SameSession login

end Client

structure Prolongs (a : Authenticator) (login : Payload) (c : Client) (q : Payload) (v : Visit) :
    Prop where
  identity : ∀ s, (v.decision a).outcome = .authenticated s → s.payload.SameSession login
  /-- A cookie is replaced once less is left of it than the threshold, which
  stops, as all times do, at the end of the range. -/
  replaced : (v.decision a).cookies ≠ [] ↔
    0 < v.policy.renewWhenLessThan.toNat ∧
      q.expiresAt.toInt - v.now.toInt <
        min (v.policy.renewWhenLessThan.toNat : Int) Int64.maxValue.toInt
  renewed : (v.decision a).cookies ≠ [] → ∃ session csrf q',
    (v.decision a).cookies = [session, csrf] ∧ a.issuer.Grants session csrf q' ∧
      q'.SameSession login ∧ q.expiresAt ≤ q'.expiresAt ∧
      q'.expiresAt.toInt = min (v.now.toInt + v.policy.duration.toNat) Int64.maxValue.toInt
  /-- At the time of its renewal a cookie is not replaced again. -/
  settled : (v.decision a).cookies ≠ [] →
    v.now.toInt + v.policy.duration.toNat ≤ Int64.maxValue.toInt →
      ∀ w, (c.after a v).Makes a w → w.now = v.now →
        w.policy.renewWhenLessThan.toNat ≤ v.policy.duration.toNat → (w.decision a).cookies = []

namespace Client

open Authenticator (zeroFresh zeroAuthenticator hourly)

variable {a : Authenticator} {login q : Payload} {c : Client} {session csrf : SetCookie} {v : Visit}

theorem Holds.presents (h : c.Holds a login session csrf q) (hv : c.Makes a v) :
    a.Presents v.request q := by
  obtain ⟨cookie, hcookie, hname, hsent⟩ := hv.presents
  rw [h.cookies, List.mem_cons, List.mem_singleton] at hcookie
  rcases hcookie with rfl | rfl
  · exact ⟨_, hsent, h.granted.opens⟩
  · rw [h.granted.names.2] at hname
    exact absurd hname (by decide)

/-- The session that a client is let in with is the one that its cookie grants. -/
theorem Holds.exists_live (h : c.Holds a login session csrf q) (hv : c.Makes a v) :
    ∃ s, a.IsLive v.lookup v.now v.request s ∧ s.payload = q ∧
      Authenticator.PassesGuard v.policy v.request v.body s ∧
        s.remaining.toInt = q.expiresAt.toInt - v.now.toInt := by
  obtain ⟨s, hs, hpass⟩ := (Authenticator.decide_follows_table a v.lookup v.nonce v.now v.policy
    v.request v.body).authenticated.1 hv.letIn
  have hq : s.payload = q := hs.presented.unique (h.presents hv)
  refine ⟨s, hs, hq, hpass, ?_⟩
  have hclock := Int64.le_iff_toInt_le.1 h.clock
  have hnow := Int64.le_iff_toInt_le.1 hv.inOrder
  have hend := q.expiresAt.toInt_lt
  have hmax : Int64.maxValue.toInt = 2 ^ 63 - 1 := rfl
  have hzero : (0 : Int64).toInt = 0 := rfl
  rw [hs.remaining, Time.span_toInt_of_lt hs.unexpired, hq]
  omega

/-- The cookie is replaced exactly when less than the threshold is left, which stops at the end of
the range. -/
theorem Holds.replaced_iff (h : c.Holds a login session csrf q) (hv : c.Makes a v) :
    (v.decision a).cookies ≠ [] ↔
      0 < v.policy.renewWhenLessThan.toNat ∧
        q.expiresAt.toInt - v.now.toInt <
          min (v.policy.renewWhenLessThan.toNat : Int) Int64.maxValue.toInt := by
  obtain ⟨s, hs, -, -, hremaining⟩ := h.exists_live hv
  have table := Authenticator.decide_follows_table a v.lookup v.nonce v.now v.policy v.request
    v.body
  rw [Visit.decision, table.cookies, ← hremaining]
  constructor
  · rintro ⟨-, t, ht, hdue⟩
    rw [← ht.unique hs]
    exact hdue
  · intro hdue
    exact ⟨hv.letIn, s, hs, hdue⟩

theorem Holds.cookies_of_renewal (h : c.Holds a login session csrf q) (hv : c.Makes a v)
    (hcookies : (v.decision a).cookies ≠ []) :
    (v.decision a).cookies = [
      a.issuer.session v.nonce { q with expiresAt := Time.after v.now v.policy.lifetime }
        v.policy.lifetime,
      a.issuer.csrf q.csrfToken v.policy.lifetime] := by
  obtain ⟨s, hs, hq, hpass, hremaining⟩ := h.exists_live hv
  have hdue := (h.replaced_iff hv).1 hcookies
  rw [← hremaining] at hdue
  rw [Visit.decision, Authenticator.decide_cookies, Authenticator.renewal?_of_due hs hpass hdue,
    Session.renewed, hq]
  rfl

theorem Holds.toInt_after_lifetime (h : c.Holds a login session csrf q) (hv : c.Makes a v) :
    (Time.after v.now v.policy.lifetime).toInt =
      min (v.now.toInt + v.policy.duration.toNat) Int64.maxValue.toInt := by
  have hclock := Int64.le_iff_toInt_le.1 (Int64.le_trans h.clock hv.inOrder)
  have hzero : (0 : Int64).toInt = 0 := rfl
  rw [v.policy.after_lifetime_toInt]
  omega

theorem Holds.le_after_lifetime (h : c.Holds a login session csrf q) (hv : c.Makes a v)
    (hcookies : (v.decision a).cookies ≠ []) :
    q.expiresAt ≤ Time.after v.now v.policy.lifetime := by
  have hdue := ((h.replaced_iff hv).1 hcookies).2
  have hroom := hv.slides.room
  have hlast := q.expiresAt.toInt_lt
  have hmax : Int64.maxValue.toInt = 2 ^ 63 - 1 := rfl
  rw [Int64.le_iff_toInt_le, h.toInt_after_lifetime hv]
  omega

theorem Holds.renewed (h : c.Holds a login session csrf q) (hv : c.Makes a v)
    (hcookies : (v.decision a).cookies ≠ []) :
    ∃ session' csrf' q', (v.decision a).cookies = [session', csrf'] ∧
      a.issuer.Grants session' csrf' q' ∧ q'.SameSession login ∧ q.expiresAt ≤ q'.expiresAt ∧
      q'.expiresAt.toInt = min (v.now.toInt + v.policy.duration.toNat) Int64.maxValue.toInt := by
  refine ⟨_, _, { q with expiresAt := Time.after v.now v.policy.lifetime },
    h.cookies_of_renewal hv hcookies, a.issuer.grants _ _ _, ?_, h.le_after_lifetime hv hcookies,
    h.toInt_after_lifetime hv⟩
  exact (Payload.sameSession_of_eq rfl).trans h.same

theorem after_of_cookies_eq_nil (h : (v.decision a).cookies = []) :
    c.after a v = ⟨v.now, c.cookies⟩ := by
  rw [after, if_pos h]

theorem after_of_cookies_ne_nil (h : (v.decision a).cookies ≠ []) :
    c.after a v = ⟨v.now, (v.decision a).cookies⟩ := by
  rw [after, if_neg h]

theorem Holds.after (h : c.Holds a login session csrf q) (hv : c.Makes a v) :
    ∃ session' csrf' q', (c.after a v).Holds a login session' csrf' q' := by
  have hclock := Int64.le_trans h.clock hv.inOrder
  by_cases hcookies : (v.decision a).cookies = []
  · rw [after_of_cookies_eq_nil hcookies]
    exact ⟨session, csrf, q, hclock, h.cookies, h.granted, h.same⟩
  · obtain ⟨session', csrf', q', hnew, hgranted, hsame, -⟩ := h.renewed hv hcookies
    rw [after_of_cookies_ne_nil hcookies]
    exact ⟨session', csrf', q', hclock, hnew, hgranted, hsame⟩

theorem Holds.of_reaches (h : c.Holds a login session csrf q) {c' : Client}
    (hr : Reaches a c c') : ∃ session' csrf' q', c'.Holds a login session' csrf' q' := by
  induction hr with
  | refl => exact ⟨session, csrf, q, h⟩
  | visit _ hv ih =>
      obtain ⟨session', csrf', q', h'⟩ := ih
      exact h'.after hv

/-- One visit does to the session what a visit may do. -/
theorem Holds.prolongs (h : c.Holds a login session csrf q) (hv : c.Makes a v) :
    Prolongs a login c q v where
  identity := by
    intro s hs
    exact (Authenticator.sameSession_of_decide (h.presents hv) hs).trans h.same
  replaced := h.replaced_iff hv
  renewed := h.renewed hv
  settled := by
    intro hcookies hroom w hw hnow hthreshold
    obtain ⟨session', csrf', q', hnew, hgranted, hsame, -, hend⟩ := h.renewed hv hcookies
    rw [after_of_cookies_ne_nil hcookies] at hw
    have h' : Client.Holds a login ⟨v.now, (v.decision a).cookies⟩ session' csrf' q' :=
      ⟨Int64.le_trans h.clock hv.inOrder, hnew, hgranted, hsame⟩
    refine Decidable.not_not.1 fun hagain => ?_
    have hdue := ((h'.replaced_iff hw).1 hagain).2
    rw [hend, hnow] at hdue
    omega

theorem holds_of_issue {fresh : Authenticator.Fresh} {t : Int64} {p : Policy} {provider : String}
    {user : User} {s : Session} {cookies : List SetCookie} (ht : 0 ≤ t)
    (hissue : a.issue fresh t p provider user = .ok (s, cookies)) :
    Client.Holds a s.payload ⟨t, cookies⟩ (a.issuer.session fresh.nonce s.payload p.lifetime)
      (a.issuer.csrf s.payload.csrfToken p.lifetime) s.payload := by
  have hcookies := (Authenticator.issue_eq_ok_iff.1 hissue).2
  rw [← Authenticator.issue_payload hissue] at hcookies
  exact ⟨ht, hcookies, a.issuer.grants _ _ _, ⟨rfl, rfl, rfl, rfl⟩⟩

def plainVisit (a : Authenticator) (nonce : Octets 12) (q : Payload) (p : Policy) (now : Int64) :
    Visit :=
  ⟨fun _ => .notRevoked, nonce, now, p, a.issuer.bearer nonce q, []⟩

/-- A client that sends its cookie before it expires makes a visit. -/
theorem makes_plainVisit {nonce : Octets 12} {maxAge now : Int64} {p : Policy}
    (hcookie : a.issuer.session nonce q maxAge ∈ c.cookies) (horder : c.clock ≤ now)
    (hlt : now < q.expiresAt) (hp : p.Slides) (hsafe : .get ∈ p.safeMethods) :
    c.Makes a (plainVisit a nonce q p now) where
  inOrder := horder
  slides := hp
  presents := ⟨_, hcookie, rfl, a.issuer.requestCookie?_bearer nonce q⟩
  letIn := by
    have hq : a.Presents (a.issuer.bearer nonce q) q :=
      Authenticator.presents_iff.2 (CookieIssuer.readPayload_bearer q.read_render)
    have hlive : ∃ s, a.IsLive (fun _ => .notRevoked) now (a.issuer.bearer nonce q) s :=
      (Authenticator.exists_live_iff_of_presents hq).2 ⟨hlt, .inl rfl⟩
    obtain ⟨s, hs⟩ := hlive
    have table := Authenticator.decide_follows_table a (fun _ => .notRevoked) nonce now p
      (a.issuer.bearer nonce q) []
    exact table.authenticated.2 ⟨s, hs, .inl hsafe⟩

def zeroPayload (p : Policy) : Payload :=
  Authenticator.newPayload zeroFresh 0 p "local" ⟨"alice", .empty⟩

def zeroClient (p : Policy) : Client :=
  ⟨0, [zeroAuthenticator.issuer.session zeroFresh.nonce (zeroPayload p) p.lifetime,
    zeroAuthenticator.issuer.csrf (zeroPayload p).csrfToken p.lifetime]⟩

theorem exists_zero_issue {p : Policy} (hp : p.Slides) :
    ∃ s, s.payload = zeroPayload p ∧
      zeroAuthenticator.issue zeroFresh 0 p "local" ⟨"alice", .empty⟩ =
        .ok (s, (zeroClient p).cookies) := by
  have hminute := hp.minute
  have hissue : ∃ issued, zeroAuthenticator.issue zeroFresh 0 p "local" ⟨"alice", .empty⟩ =
      .ok issued := Authenticator.exists_issue_iff.2 ⟨by omega, by decide⟩
  obtain ⟨⟨s, cookies⟩, hissue⟩ := hissue
  obtain ⟨-, rfl⟩ := Authenticator.issue_eq_ok_iff.1 hissue
  exact ⟨s, Authenticator.issue_payload hissue, hissue⟩

/-- A client keeps the session of its login over any number of visits, as long as
it is let in on each; and the policies of a gateway with validated settings are
such that it can. -/
theorem renewal_keeps_session (a : Authenticator) :
    (∀ settings files fresh g files',
      Gateway.ofSettings settings files fresh = .ok (g, files') → ∀ p ∈ g.policies, p.Slides) ∧
    ∀ fresh t p provider user s cookies, 0 ≤ t →
      a.issue fresh t p provider user = .ok (s, cookies) →
        ∀ c, Reaches a ⟨t, cookies⟩ c → ∀ v, c.Makes a v →
          ∃ session csrf q, c.Holds a s.payload session csrf q ∧ Prolongs a s.payload c q v := by
  constructor
  · intro settings files fresh g files' hg p hp
    exact Gateway.slides_of_mem_policies hg hp
  · intro fresh t p provider user s cookies ht hissue c hc v hv
    obtain ⟨session, csrf, q, h'⟩ := (holds_of_issue ht hissue).of_reaches hc
    exact ⟨session, csrf, q, h', h'.prolongs hv⟩

def lateVisit : Visit :=
  plainVisit zeroAuthenticator zeroFresh.nonce (zeroPayload hourly) hourly 3400

def nextVisit : Visit :=
  plainVisit zeroAuthenticator zeroFresh.nonce { zeroPayload hourly with expiresAt := 7000 } hourly
    3400

/-- An hour's session is renewed when a few minutes are left of it, and only once
at that time. -/
theorem renewed_once :
    (zeroClient hourly).Makes zeroAuthenticator lateVisit ∧
      (lateVisit.decision zeroAuthenticator).cookies ≠ [] ∧
      ((zeroClient hourly).after zeroAuthenticator lateVisit).Makes zeroAuthenticator nextVisit ∧
      (nextVisit.decision zeroAuthenticator).cookies = [] := by
  have hslides : hourly.Slides := ⟨by decide, by decide⟩
  obtain ⟨s, hs, hissue⟩ := exists_zero_issue hslides
  have hlate : (zeroClient hourly).Makes zeroAuthenticator lateVisit :=
    makes_plainVisit List.mem_cons_self (by decide) (by decide) hslides (by decide)
  obtain ⟨session, csrf, q, h, hprolongs⟩ :=
    (renewal_keeps_session zeroAuthenticator).2 _ _ _ _ _ _ _ (by decide) hissue _ .refl _ hlate
  have h' : (zeroClient hourly).Holds zeroAuthenticator _ _ _ _ := holds_of_issue (by decide) hissue
  obtain rfl : q = zeroPayload hourly := by
    rw [← hs]
    exact (h.presents hlate).unique (h'.presents hlate)
  have hrenewed : (lateVisit.decision zeroAuthenticator).cookies ≠ [] :=
    hprolongs.replaced.2 ⟨by decide, by decide⟩
  have hnext : ((zeroClient hourly).after zeroAuthenticator lateVisit).Makes zeroAuthenticator
      nextVisit := by
    rw [after_of_cookies_ne_nil hrenewed, h.cookies_of_renewal hlate hrenewed]
    exact makes_plainVisit List.mem_cons_self (by decide) (by decide) hslides (by decide)
  exact ⟨hlate, hrenewed, hnext,
    hprolongs.settled hrenewed (by decide) nextVisit hnext rfl (by decide)⟩

def endless : Policy :=
  .ofSession .none { duration := 18446744073709551615, renewWhenLessThan := 9223372036854775808 }

/-- A threshold beyond the end of the range is cut off: of a session that has all
the range left there is less than the threshold, and still it is not replaced. -/
theorem renewal_threshold_is_cut_off :
    ¬ ∀ (a : Authenticator) (fresh : Authenticator.Fresh) (t : Int64) (p : Policy)
        (provider : String) (user : User) (s : Session) (cookies : List SetCookie),
      0 ≤ t → a.issue fresh t p provider user = .ok (s, cookies) →
        ∀ c, Reaches a ⟨t, cookies⟩ c → ∀ v, c.Makes a v →
          ∀ session csrf q, c.Holds a s.payload session csrf q →
            ((v.decision a).cookies ≠ [] ↔ 0 < v.policy.renewWhenLessThan.toNat ∧
              q.expiresAt.toInt - v.now.toInt < v.policy.renewWhenLessThan.toNat) := by
  intro hall
  have hslides : endless.Slides := ⟨by decide, by decide⟩
  obtain ⟨s, hs, hissue⟩ := exists_zero_issue hslides
  have h : (zeroClient endless).Holds zeroAuthenticator _ _ _ _ := holds_of_issue (by decide) hissue
  have hv : (zeroClient endless).Makes zeroAuthenticator
      (plainVisit zeroAuthenticator zeroFresh.nonce (zeroPayload endless) endless 0) :=
    makes_plainVisit List.mem_cons_self (by decide) (by decide) hslides (by decide)
  have hcookies := (hall _ _ _ _ _ _ _ _ (by decide) hissue _ .refl _ hv _ _ _ h).2
    ⟨by decide, by rw [hs]; decide⟩
  have hdue := ((h.replaced_iff hv).1 hcookies).2
  rw [hs] at hdue
  exact absurd hdue (by decide)

end Client

end AuthGateway
