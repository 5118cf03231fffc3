import AuthGateway.Proofs.Decision
import AuthGateway.Proofs.Secrets
import AuthGateway.Proofs.WebText

/-!
The strict guard. It knows the URL of the gateway, and lets a request pass whose
first CSRF cookie is the token of its session, unless the request claims to come
from elsewhere. The claim is the Origin header or, where that says nothing, the
Referer; a claim that is no URL is not held against a request. Of a claim that is
one, nothing counts but its origin.
-/
namespace AuthGateway

open Http (Request HeaderName HeaderValue)
open Revocation (Lookup)
open Url (WebText)

namespace Csrf

open Authenticator (context)

/-- The first header of a name writes a text in visible ASCII. -/
def Says (r : Request) (name : HeaderName) (text : String) : Prop :=
  ∃ v, r.headers.first? name = some v ∧
    (∀ b ∈ v.bytes, HeaderValue.isVisibleByte b = true) ∧ v.bytes = Utf8.encode text

/-- A text that is more than a mark of an unknown origin. -/
def Counts (text : String) : Prop :=
  text ≠ "" ∧ text ≠ "null"

inductive Claims (r : Request) (text : String) : Prop
  | origin (h : Says r .origin text) (hcounts : Counts text)
  | referer (hsilent : ∀ t, Says r .origin t → ¬ Counts t) (h : Says r .referer text)
      (hcounts : Counts text)

def IsElsewhere (own : Url) (text : String) : Prop :=
  ∃ u, Url.parse text = .ok u ∧ u.origin ≠ own.origin

/-- The first CSRF cookie of a request has a value. -/
def Brings (r : Request) (token : String) : Prop :=
  Form.IsFirst CookieIssuer.csrfName (Http.requestCookies r.headers) token

variable {r r' : Request} {body body' : List UInt8} {own : Url} {text : String}

theorem says_iff {name : HeaderName} : Says r name text ↔ r.headers.text? name = some text := by
  rw [Says, Http.Headers.text?, Option.bind_eq_some_iff]
  simp only [Http.text?_eq_some_iff]

theorem presentClaim_eq_some_iff {claim : Option String} :
    presentClaim claim = some text ↔ claim = some text ∧ Counts text := by
  simp [presentClaim, Option.filter_eq_some_iff, Counts]

/-- The claim of a request is the one that the guard takes. -/
theorem claims_iff :
    Claims r text ↔
      claimedOrigin (r.headers.text? .origin) (r.headers.text? .referer) = some text := by
  have horigin (t : String) : presentClaim (r.headers.text? .origin) = some t ↔
      Says r .origin t ∧ Counts t := by
    rw [presentClaim_eq_some_iff, says_iff]
  have hreferer : presentClaim (r.headers.text? .referer) = some text ↔
      Says r .referer text ∧ Counts text := by
    rw [presentClaim_eq_some_iff, says_iff]
  rw [claimedOrigin]
  -- an origin that counts hides the referer
  cases hclaim : presentClaim (r.headers.text? .origin) with
  | some t =>
      obtain ⟨hsaid, hcounts⟩ := (horigin t).1 hclaim
      rw [Option.orElse_some, ← hclaim, horigin]
      constructor
      · intro hc
        cases hc with
        | origin h hcounts => exact ⟨h, hcounts⟩
        | referer hsilent _ _ => exact absurd hcounts (hsilent t hsaid)
      · exact fun h => .origin h.1 h.2
  | none =>
      have hsilent : ∀ t, Says r .origin t → ¬ Counts t := by
        intro t hsaid hcounts
        rw [(horigin t).2 ⟨hsaid, hcounts⟩] at hclaim
        cases hclaim
      rw [Option.orElse_none, hreferer]
      constructor
      · intro hc
        cases hc with
        | origin h hcounts => exact absurd hcounts (hsilent text h)
        | referer _ h hcounts => exact ⟨h, hcounts⟩
      · exact fun h => .referer hsilent h.1 h.2

theorem Claims.unique {text' : String} (h : Claims r text) (h' : Claims r text') : text = text' := by
  rw [claims_iff] at h h'
  exact Option.some.inj (h.symm.trans h')

theorem brings_iff {token : String} :
    Brings r token ↔ Http.requestCookie? r.headers CookieIssuer.csrfName = some token := by
  rw [Brings, Http.requestCookie?, List.lookup_eq_some_iff, Form.IsFirst]
  simp only [bne_iff_ne, ne_comm]

theorem sameOrigin_iff {a b : Url} : sameOrigin a b = true ↔ a.origin = b.origin := by
  simp [sameOrigin, Url.origin, and_assoc]

/-- A request is foreign exactly if it claims to come from elsewhere. -/
theorem isForeign_iff :
    isForeign (r.headers.text? .origin) (r.headers.text? .referer) own = true ↔
      ∃ text, Claims r text ∧ IsElsewhere own text := by
  simp only [isForeign, claims_iff, IsElsewhere]
  cases claimedOrigin (r.headers.text? .origin) (r.headers.text? .referer) with
  | none => simp
  | some text =>
      cases hparse : Url.parse text with
      | error e => simp [hparse]
      | ok u => simp [hparse, ← sameOrigin_iff]

/-- What the strict guard is told of a request. -/
theorem context_fields (r : Request) (body : List UInt8) :
    (context r body).cookieToken = Http.requestCookie? r.headers CookieIssuer.csrfName ∧
      (context r body).origin = r.headers.text? .origin ∧
        (context r body).referer = r.headers.text? .referer := by
  rw [context, Context.withFormBody]
  split
  · exact ⟨rfl, rfl, rfl⟩
  · exact ⟨rfl, rfl, rfl⟩

theorem passes_iff_brings (own : Url) (r : Request) (body : List UInt8) (s : Session) :
    (Guard.sameSiteStrict own).blocks (context r body) s = false ↔
      Brings r s.payload.csrfToken ∧ ¬ ∃ text, Claims r text ∧ IsElsewhere own text := by
  obtain ⟨hcookie, horigin, hreferer⟩ := context_fields r body
  rw [← isForeign_iff, brings_iff, Guard.blocks, Bool.not_eq_false', Guard.keepsSite, hcookie,
    horigin, hreferer]
  cases Http.requestCookie? r.headers CookieIssuer.csrfName with
  | none => simp
  | some token => simp [Secret.equal_iff, and_comm]

theorem isElsewhere_iff_of_parse {u : Url} (h : Url.parse text = .ok u) :
    IsElsewhere own text ↔ u.origin ≠ own.origin := by
  rw [IsElsewhere, h]
  constructor
  · rintro ⟨v, hv, hne⟩
    exact Except.ok.inj hv ▸ hne
  · exact fun hne => ⟨u, rfl, hne⟩

/-- Of an http or https URL only the origin counts. -/
theorem isElsewhere_text_iff (w : WebText) :
    IsElsewhere own w.text ↔ ∃ o, w.origin = .ok o ∧ o ≠ own.origin := by
  rw [IsElsewhere, ← w.origin_parse_text]
  cases Url.parse w.text with
  | error e => simp [Except.map]
  | ok u => simp [Except.map]

/-- Two claims are one as far as their origins go. They are read as URLs of one
origin, or they are written as http or https URLs with the same scheme, the same host
in any case, and the same port or default port. -/
inductive SameClaim (text text' : String) : Prop
  | read {u u' : Url} (h : Url.parse text = .ok u) (h' : Url.parse text' = .ok u')
      (hsame : u.origin = u'.origin)
  | written {w w' : WebText} (h : w.text = text) (h' : w'.text = text') (hsame : w.SameOrigin w')

theorem SameClaim.isElsewhere_iff {text text' : String} (h : SameClaim text text') :
    IsElsewhere own text ↔ IsElsewhere own text' := by
  cases h with
  | read hread hread' hsame =>
      rw [isElsewhere_iff_of_parse hread, isElsewhere_iff_of_parse hread', hsame]
  | written hw hw' hsame =>
      rw [← hw, ← hw', isElsewhere_text_iff, isElsewhere_text_iff, hsame.origin_eq]

/-- Two requests bring the same cookie and claim the same origin, or none. -/
structure SameSite (r r' : Request) : Prop where
  cookie : ∀ token, Brings r token ↔ Brings r' token
  claims : (∃ text text', Claims r text ∧ Claims r' text' ∧ SameClaim text text') ∨
    (∀ text, ¬ Claims r text) ∧ ∀ text, ¬ Claims r' text

/-- Requests of one site claim to come from elsewhere both or neither. -/
theorem SameSite.isElsewhere_iff (h : SameSite r r') :
    (∃ text, Claims r text ∧ IsElsewhere own text) ↔
      ∃ text, Claims r' text ∧ IsElsewhere own text := by
  rcases h.claims with ⟨text, text', hclaim, hclaim', hsame⟩ | ⟨hnone, hnone'⟩
  · constructor
    · rintro ⟨t, ht, helse⟩
      obtain rfl := ht.unique hclaim
      exact ⟨text', hclaim', hsame.isElsewhere_iff.1 helse⟩
    · rintro ⟨t, ht, helse⟩
      obtain rfl := ht.unique hclaim'
      exact ⟨text, hclaim, hsame.isElsewhere_iff.2 helse⟩
  · constructor
    · exact fun ⟨t, ht, _⟩ => absurd ht (hnone t)
    · exact fun ⟨t, ht, _⟩ => absurd ht (hnone' t)

variable {s s' : Session}

theorem blocks_eq_of_sameSite (h : SameSite r r')
    (htoken : s.payload.csrfToken = s'.payload.csrfToken) :
    (Guard.sameSiteStrict own).blocks (context r body) s =
      (Guard.sameSiteStrict own).blocks (context r' body') s' := by
  rw [Bool.eq_iff_iff, ← Bool.not_eq_false, ← Bool.not_eq_false, passes_iff_brings,
    passes_iff_brings, h.cookie, h.isElsewhere_iff, htoken]

structure SiteStrictness (own : Url) (r : Request) (body : List UInt8) (s : Session) : Prop where
  passes : (Guard.sameSiteStrict own).blocks (context r body) s = false ↔
    Brings r s.payload.csrfToken ∧ ¬ ∃ text, Claims r text ∧ IsElsewhere own text
  /-- The origin of the gateway is the scheme, the host, and the port or default port of the URL
  that it was given. -/
  given : ∀ w : WebText, Url.parse w.text = .ok own → w.origin = .ok own.origin
  /-- An http or https URL is elsewhere if it is one at all and any of its three is another. -/
  written : ∀ w : WebText, IsElsewhere own w.text ↔ ∃ o, w.origin = .ok o ∧ o ≠ own.origin
  /-- Of a claim nothing but the origin makes a difference. -/
  settled : ∀ (r' : Request) (body' : List UInt8) (s' : Session), SameSite r r' →
    s.payload.csrfToken = s'.payload.csrfToken →
      (Guard.sameSiteStrict own).blocks (context r body) s =
        (Guard.sameSiteStrict own).blocks (context r' body') s'
  /-- A request that carries the session is let in under this guard, unless its
  method is safe, exactly if it passes, and otherwise it is blocked. -/
  decided : ∀ (a : Authenticator) (lookup : String → Lookup) (nonce : Octets 12) (now : Int64)
    (p : Policy), p.guard = .sameSiteStrict own → r.method ∉ p.safeMethods →
      a.IsLive lookup now r s →
        ((∃ s', (a.decide lookup nonce now p r body).outcome = .authenticated s') ↔
          Brings r s.payload.csrfToken ∧ ¬ ∃ text, Claims r text ∧ IsElsewhere own text) ∧
        (¬ (Brings r s.payload.csrfToken ∧ ¬ ∃ text, Claims r text ∧ IsElsewhere own text) →
          a.decide lookup nonce now p r body = ⟨.rejected .csrfBlocked, []⟩)

/-- A request passes the strict guard exactly if its first CSRF cookie is the token
of the session and it claims no other origin than that of the gateway. -/
theorem strict_guard_iff_same_site (own : Url) (r : Request) (body : List UInt8) (s : Session) :
    SiteStrictness own r body s where
  passes := passes_iff_brings own r body s
  given := by
    intro w hparse
    rw [← w.origin_parse_text, hparse]
    rfl
  written := isElsewhere_text_iff
  settled := fun _ _ _ hsame htoken => blocks_eq_of_sameSite hsame htoken
  decided := by
    intro a lookup nonce now p hp hm hs
    have hiff : Authenticator.PassesGuard p r body s ↔
        Brings r s.payload.csrfToken ∧ ¬ ∃ text, Claims r text ∧ IsElsewhere own text := by
      rw [Authenticator.PassesGuard, hp, passes_iff_brings]
      exact or_iff_right hm
    rw [← hiff]
    exact ⟨Authenticator.authenticated_iff_passesGuard hs, Authenticator.decide_of_blocked hs⟩

/-- The user, the case of the host, a default port and a path in a claim make no
difference to the guard. -/
example : (Guard.sameSiteStrict ⟨.https, some ⟨[], none, .ipv6 [10, 0, 0, 0, 0, 0, 0, 1], none⟩,
      .segments [[]], none, none⟩).blocks
    (context ⟨.post, "/", "", ⟨[(.cookie, ⟨Utf8.encode "csrf=t"⟩),
      (.origin, ⟨Utf8.encode "https://me:pw@[A::1]:443/x?y"⟩)]⟩, []⟩ [])
    ⟨⟨"s", "local", 60, ⟨"alice", .empty⟩, "t"⟩, 60, by decide⟩ = false := by
  decide +kernel

end Csrf

end AuthGateway
