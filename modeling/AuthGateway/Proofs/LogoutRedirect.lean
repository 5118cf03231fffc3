import AuthGateway.Proofs.Decision
import AuthGateway.Proofs.DecodingLevels
import AuthGateway.Proofs.RenderedUrl

/-!
Where a logout sends the caller. It is the configured target, or a URL that the
request names itself; such a URL is written back as it was read, with https, without
a user, and with an allowed host in the place in which a reader finds the host. No
other answer to a logout leads anywhere or sets a cookie.
-/
namespace AuthGateway

open Http (Request Response Headers HeaderName HeaderValue SetCookie)
open Revocation (Store)
open Url (WebText)

namespace Http

theorem Headers.values_append_entry (h : Headers) (name other : HeaderName) (v : HeaderValue) :
    (h.append name v).values other = h.values other ++ if name = other then [v] else [] := by
  rw [append, values, values, List.filter_append, List.map_append]
  congr 1
  by_cases hname : name = other
  · simp [hname]
  · simp [hname]

theorem bytes_of_ofText? {text : String} {v : HeaderValue} (h : HeaderValue.ofText? text = some v) :
    v = ⟨Utf8.encode text⟩ := by
  rw [HeaderValue.ofText?, HeaderValue.ofBytes?, Option.ite_none_right_eq_some] at h
  exact (Option.some.inj h.2).symm

namespace Response

variable {a a' : Response} {text : String}

theorem withHeader?_eq_some {name : HeaderName} (h : a.withHeader? name text = some a') :
    a' = { a with headers := a.headers.append name ⟨Utf8.encode text⟩ } := by
  obtain ⟨v, hv, rfl⟩ := Option.map_eq_some_iff.1 h
  rw [bytes_of_ofText? hv]

/-- Cookies change no other header, and not the status. -/
theorem withCookies?_eq_some {cookies : List SetCookie} (h : a.withCookies? cookies = some a') :
    a'.status = a.status ∧ ∀ name, HeaderName.setCookie ≠ name →
      a'.headers.values name = a.headers.values name := by
  induction cookies generalizing a with
  | nil =>
      cases h
      exact ⟨rfl, fun _ _ => rfl⟩
  | cons c cookies ih =>
      rw [withCookies?, List.foldlM_cons] at h
      obtain ⟨b, hb, h⟩ := Option.bind_eq_some_iff.1 h
      obtain ⟨hstatus, hvalues⟩ := ih h
      rw [withHeader?_eq_some hb] at hstatus hvalues
      refine ⟨hstatus, fun name hname => ?_⟩
      rw [hvalues name hname, Headers.values_append_entry, if_neg hname, List.append_nil]

/-- A reply that sends the client elsewhere names the one place, unless it cannot be
written. -/
theorem redirect_cases (target : String) (cookies : List SetCookie) :
    redirect target cookies = unwritable ∨
      (redirect target cookies).status = 302 ∧
        (redirect target cookies).headers.values .location = [⟨Utf8.encode target⟩] := by
  rw [redirect]
  cases hcookies : (⟨302, .empty, []⟩ : Response).withCookies? cookies with
  | none => exact .inl rfl
  | some b =>
      rw [Option.bind_some]
      cases hlocation : b.withHeader? .location target with
      | none => exact .inl rfl
      | some c =>
          obtain ⟨hstatus, hvalues⟩ := withCookies?_eq_some hcookies
          rw [Option.getD_some, withHeader?_eq_some hlocation]
          refine .inr ⟨hstatus, ?_⟩
          rw [Headers.values_append_entry, hvalues .location (by decide)]
          rfl

/-- A reply that leads nowhere and sets no cookie. -/
structure IsBare (a : Response) : Prop where
  status : a.status ≠ 302
  location : a.headers.values .location = []
  setCookie : a.headers.values .setCookie = []

theorem isBare_ofText {status : Nat} (h : status ≠ 302) (text : String) :
    (ofText status text).IsBare :=
  ⟨h, rfl, rfl⟩

theorem isBare_refuse (refusal : Refusal) : (refuse refusal).IsBare := by
  refine ⟨?_, rfl, rfl⟩
  cases refusal <;> exact (by decide)

end Response

end Http

namespace Authenticator

theorem logout_rejected_iff {a : Authenticator} {store : Store} {now : Int64} {r : Request}
    {body : List UInt8} :
    (a.logout store now r body).2 = .rejected ↔
      ∃ s, a.IsLive (a.lookupIn store now) now r s ∧
        a.logoutGuard.blocks (context r body) s = true := by
  simp only [← liveSession?_eq_some_iff, logout]
  cases a.liveSession? (a.lookupIn store now) now r with
  | none => simp
  | some s =>
      cases hguard : a.logoutGuard.blocks (context r body) s with
      | true => simp [hguard]
      | false => simp [hguard]

end Authenticator

namespace Gateway

/-- A place that a query names and that is on an allowed host. As a text it has
https, no user, an allowed host in some case, perhaps a port, and a path. -/
def LeadsBack (hosts : List String) (query location : String) : Prop :=
  ∃ (url : String) (u : Url) (w : WebText), returnUrls query = [url] ∧ Utf8.size url ≤ 2048 ∧
    Url.parse url = .ok u ∧ u.render = location ∧ location = w.text ∧ w.scheme = .https ∧
      w.user = none ∧ w.tail.head? = some '/' ∧
        ∃ allowed ∈ hosts, Ascii.sameIgnoringCase allowed (String.ofList w.host) = true

def IsRefused (g : Gateway) (store : Store) (now : Int64) (r : Request) : Prop :=
  bodyFailure? r = none ∧ (returnUrls r.query).length ≤ 1 ∧
    ∃ s, g.authenticator.IsLive (g.authenticator.lookupIn store now) now r s ∧
      g.authenticator.logoutGuard.blocks (Authenticator.context r r.body) s = true

structure AnswersLogout (target : String) (hosts : List String) (g : Gateway) (store : Store)
    (now : Int64) (r : Request) (a : Response) : Prop where
  redirected : a.status = 302 → ∃ location,
    a.headers.values .location = [⟨Utf8.encode location⟩] ∧
      (location = target ∨ LeadsBack hosts r.query location)
  bare : a.status ≠ 302 → a.headers.values .location = [] ∧ a.headers.values .setCookie = []
  refused : a.status = 401 ↔ g.IsRefused store now r

variable {g : Gateway} {store : Store} {now : Int64} {r : Request} {a : Response}

theorem logoutLocation_cases {found : List String} (h : found.length ≤ 1) :
    g.logoutLocation found.head? = g.logoutTarget ∨
      ∃ url u, found = [url] ∧ Redirect.validate url g.logoutHosts = .ok u ∧
        g.logoutLocation found.head? = u.render := by
  cases found with
  | nil => exact .inl rfl
  | cons url rest =>
      obtain rfl : rest = [] := List.eq_nil_of_length_eq_zero (by simpa using h)
      simp only [List.head?_cons, logoutLocation]
      cases hvalidate : Redirect.validate url g.logoutHosts with
      | error e => exact .inl rfl
      | ok u => exact .inr ⟨url, u, rfl, hvalidate, rfl⟩

theorem leadsBack_of_validate {query url : String} {hosts : List String} {u : Url}
    (hquery : returnUrls query = [url]) (h : Redirect.validate url hosts = .ok u) :
    LeadsBack hosts query u.render := by
  have hpasses := Redirect.validate_eq_ok_iff.1 h
  obtain ⟨w, htext, hwscheme, huser, hhost, htail⟩ :=
    Url.exists_webText hpasses.parsed (.inr hpasses.secure) hpasses.anonymous
  obtain ⟨allowed, hallowed, hsame⟩ := hpasses.allowed
  rw [hhost, Option.getD_some] at hsame
  exact ⟨url, u, w, hquery, hpasses.short, hpasses.parsed, rfl, htext,
    hwscheme.trans hpasses.secure, huser, htail, allowed, hallowed, hsame⟩

theorem AnswersLogout.of_bare {target : String} {hosts : List String} (ha : a.IsBare)
    (hiff : a.status = 401 ↔ g.IsRefused store now r) :
    AnswersLogout target hosts g store now r a :=
  ⟨fun h => absurd h ha.status, fun _ => ⟨ha.location, ha.setCookie⟩, hiff⟩

/-- A logout that the guard lets pass leads to the target, or back if the query says so. -/
theorem answersLogout_loggedOut (hfree : ¬ g.IsRefused store now r)
    (hfound : (returnUrls r.query).length ≤ 1) (revoked : Bool) (cookies : List SetCookie) :
    AnswersLogout g.logoutTarget g.logoutHosts g store now r
      (g.logoutResponse (returnUrls r.query).head? (.loggedOut revoked cookies)) := by
  rw [logoutResponse]
  rcases Response.redirect_cases (g.logoutLocation (returnUrls r.query).head?) cookies with
    hno | ⟨hstatus, hvalues⟩
  · rw [hno]
    exact .of_bare (Response.isBare_ofText (by decide) _) (iff_of_false (by decide) hfree)
  · refine ⟨fun _ => ⟨_, hvalues, ?_⟩, fun h => absurd hstatus h, iff_of_false ?_ hfree⟩
    · rcases logoutLocation_cases hfound with htarget | ⟨url, u, hquery, hvalidate, hlocation⟩
      · exact .inl htarget
      · rw [hlocation]
        exact .inr (leadsBack_of_validate hquery hvalidate)
    · rw [hstatus]
      decide

/-- A logout that can be read is answered within what the settings allow. -/
theorem answersLogout_logOut (g : Gateway) (store : Store) (now : Int64)
    (hread : bodyFailure? r = none) (hfound : (returnUrls r.query).length ≤ 1) :
    AnswersLogout g.logoutTarget g.logoutHosts g store now r
      (g.logOut store now r (returnUrls r.query).head?).2 := by
  rw [logOut]
  dsimp only
  cases houtcome : (g.authenticator.logout store now r r.body).2 with
  | rejected =>
      have hrefused : g.IsRefused store now r :=
        ⟨hread, hfound, Authenticator.logout_rejected_iff.1 houtcome⟩
      exact .of_bare (Response.isBare_refuse _) (iff_of_true rfl hrefused)
  | loggedOut revoked cookies =>
      have hfree : ¬ g.IsRefused store now r := by
        rintro ⟨-, -, hblocked⟩
        rw [Authenticator.logout_rejected_iff.2 hblocked] at houtcome
        cases houtcome
      exact answersLogout_loggedOut hfree hfound revoked cookies

/-- Every request to log out is answered within what the settings allow. -/
theorem answersLogout_handleLogout (g : Gateway) (store : Store) (now : Int64) (r : Request) :
    AnswersLogout g.logoutTarget g.logoutHosts g store now r (g.handleLogout store now r).2 := by
  rw [handleLogout]
  -- a request that cannot be read is answered before the guard is asked
  cases hread : bodyFailure? r with
  | some failure =>
      have hfree : ¬ g.IsRefused store now r := by
        rintro ⟨hnone, -⟩
        rw [hread] at hnone
        cases hnone
      rw [bodyFailure?, Option.ite_none_right_eq_some] at hread
      rw [← Option.some.inj hread.2]
      have hstatus : ¬ (413 : Nat) = 401 := by decide
      exact .of_bare (Response.isBare_ofText (by decide) _) (iff_of_false hstatus hfree)
  | none =>
      have hlogOut := answersLogout_logOut g store now hread
      cases hfound : returnUrls r.query with
      | nil =>
          rw [hfound] at hlogOut
          exact hlogOut (Nat.zero_le 1)
      | cons url rest =>
          cases rest with
          | nil =>
              rw [hfound] at hlogOut
              exact hlogOut (Nat.le_refl 1)
          | cons other rest =>
              have hfree : ¬ g.IsRefused store now r := by
                rintro ⟨-, hlength, -⟩
                rw [hfound] at hlength
                simp at hlength
              have hstatus : ¬ (400 : Nat) = 401 := by decide
              exact .of_bare (Response.isBare_ofText (by decide) _) (iff_of_false hstatus hfree)

/-- Whatever a request to log out says and whatever the store does, a redirect leads
to the configured target or to an allowed host, and nothing else leads anywhere or
sets a cookie. -/
theorem logout_leads_to_allowed_host {settings : Settings} {key : Key}
    (hg : ofKey settings key = .ok g) (store : Store) (now : Int64) (r : Request) :
    AnswersLogout settings.logout.redirectUrl settings.logout.allowedReturnHosts g store now r
      (g.handleLogout store now r).2 := by
  obtain ⟨htarget, hhosts⟩ := logout_of_ofKey hg
  rw [← htarget, ← hhosts]
  exact answersLogout_handleLogout g store now r

def homeSettings : Settings :=
  { application := { baseUrl := "http://[::1]" }
    logout := { csrfProtection := "none", allowedReturnHosts := ["[A::1]"] } }

def homeRequest : Request :=
  ⟨.get, "/auth/logout", "returnUrl=HTTPS:%2F%2F[a::0:1]:8443", .empty, []⟩

/-- The place is written in its own way, however the request spells it. -/
theorem logout_leads_home :
    ∃ g, ofKey homeSettings (.zero 32) = .ok g ∧
      (g.handleLogout .failing 0 homeRequest).2.status = 302 ∧
        LeadsBack ["[A::1]"] homeRequest.query "https://[a::1]:8443/" := by
  have hanswer : (ofKey homeSettings (.zero 32)).toOption.map
      (fun g => ((g.handleLogout .failing 0 homeRequest).2.status,
        (g.handleLogout .failing 0 homeRequest).2.headers.values .location)) =
        some (302, [⟨Utf8.encode "https://[a::1]:8443/"⟩]) := by
    decide +kernel
  cases hg : ofKey homeSettings (.zero 32) with
  | error e =>
      rw [hg] at hanswer
      cases hanswer
  | ok g =>
      rw [hg] at hanswer
      obtain ⟨hstatus, hvalues⟩ := Prod.mk.inj (Option.some.inj hanswer)
      obtain ⟨location, hlocation, hplace⟩ :=
        (logout_leads_to_allowed_host hg .failing 0 homeRequest).redirected hstatus
      have hsame : location = "https://[a::1]:8443/" := by
        rw [hvalues] at hlocation
        exact (Utf8.encode_inj.1 (HeaderValue.mk.inj (List.cons.inj hlocation).1)).symm
      refine ⟨g, rfl, hstatus, ?_⟩
      rw [hsame] at hplace
      exact hplace.resolve_left (by decide)

end Gateway

end AuthGateway
