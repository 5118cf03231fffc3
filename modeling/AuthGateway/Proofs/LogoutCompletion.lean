import AuthGateway.Proofs.CleanUrl
import AuthGateway.Proofs.LogoutRedirect
import AuthGateway.Proofs.LogoutReport
import AuthGateway.Proofs.Readiness

/-!
Whether a logout is answered to the end. The answer is written after the session is revoked,
and it can be written if the place it leads to is free of control characters. A URL that the
request names and that is accepted always is; the configured place is checked by nobody
before. At any store, the answer either removes both cookies and leads on, or it is a failure
and says nothing to the client about its cookies.
-/
namespace AuthGateway

open Http (HeaderName HeaderValue Request Response SetCookie)

namespace Http

/-! Texts that can stand in a header. -/

def IsWritableChar (c : Char) : Prop :=
  c = '\t' ∨ 0x20 ≤ c.toNat ∧ c.toNat ≠ 0x7F

instance (c : Char) : Decidable (IsWritableChar c) :=
  inferInstanceAs (Decidable (_ ∨ _))

def IsWritable (text : String) : Prop :=
  ∀ c ∈ text.toList, IsWritableChar c

instance (text : String) : Decidable (IsWritable text) :=
  List.decidableBAll IsWritableChar text.toList

theorem isAllowedByte_iff (b : UInt8) :
    HeaderValue.isAllowedByte b = true ↔ b.toNat = 9 ∨ 0x20 ≤ b.toNat ∧ b.toNat ≠ 0x7F := by
  have hdelete : b = 0x7F ↔ b.toNat = 0x7F := UInt8.toNat_inj.symm
  have htab : b = 0x09 ↔ b.toNat = 9 := UInt8.toNat_inj.symm
  simp only [HeaderValue.isAllowedByte, Bool.or_eq_true, Bool.and_eq_true, decide_eq_true_eq,
    bne_iff_ne, ne_eq, beq_iff_eq, UInt8.le_iff_toNat_le, hdelete, htab, or_comm]
  rfl

theorem isAllowedByte_encodeChar (c : Char) :
    (∀ b ∈ Utf8.encodeChar c, HeaderValue.isAllowedByte b = true) ↔ IsWritableChar c := by
  have htab : c = '\t' ↔ c.toNat = 9 := Char.toNat_inj.symm
  rw [IsWritableChar, htab]
  by_cases hascii : c.toNat < 0x80
  · rw [Utf8.encodeChar_of_ascii hascii, List.forall_mem_singleton, isAllowedByte_iff,
      Utf8.toNat_ofNat (by omega)]
  · refine iff_of_true (fun b hb => ?_) (.inr (by omega))
    have hhigh := Utf8.toNat_of_mem_encodeChar hb
    rw [isAllowedByte_iff]
    omega

theorem ofText?_eq_some_iff {text : String} {v : HeaderValue} :
    HeaderValue.ofText? text = some v ↔ IsWritable text ∧ v = ⟨Utf8.encode text⟩ := by
  have hall : (Utf8.encode text).all HeaderValue.isAllowedByte = true ↔ IsWritable text := by
    rw [List.all_eq_true, Utf8.encode, Utf8.encodeChars, IsWritable]
    simp only [List.mem_flatMap, forall_exists_index, and_imp, ← isAllowedByte_encodeChar]
    exact ⟨fun h c hc b hb => h b c hc hb, fun h b c hc hb => h c hc b hb⟩
  rw [HeaderValue.ofText?, HeaderValue.ofBytes?, Option.ite_none_right_eq_some, hall,
    Option.some.injEq, eq_comm (a := v)]

namespace Response

variable {a : Response} {text : String}

theorem withHeader?_of_writable (name : HeaderName) (h : IsWritable text) :
    a.withHeader? name text =
      some { a with headers := a.headers.append name ⟨Utf8.encode text⟩ } := by
  rw [withHeader?, ofText?_eq_some_iff.2 ⟨h, rfl⟩, Option.map_some]

theorem withHeader?_of_not_writable (name : HeaderName) (h : ¬ IsWritable text) :
    a.withHeader? name text = none := by
  rw [withHeader?, Option.map_eq_none_iff, Option.eq_none_iff_forall_ne_some]
  exact fun v hv => h (ofText?_eq_some_iff.1 hv).1

/-- Cookies that can be written are set behind those already there. -/
theorem exists_withCookies {cookies : List SetCookie} (h : ∀ c ∈ cookies, IsWritable c.render)
    (a : Response) : ∃ b, a.withCookies? cookies = some b ∧
      b.headers.values .setCookie =
        a.headers.values .setCookie ++ cookies.map fun c => ⟨Utf8.encode c.render⟩ := by
  induction cookies generalizing a with
  | nil => exact ⟨a, rfl, (List.append_nil _).symm⟩
  | cons c cookies ih =>
      obtain ⟨hc, hcookies⟩ := List.forall_mem_cons.1 h
      obtain ⟨b, hb, hvalues⟩ :=
        ih hcookies { a with headers := a.headers.append .setCookie ⟨Utf8.encode c.render⟩ }
      refine ⟨b, ?_, ?_⟩
      · rw [withCookies?, List.foldlM_cons, withHeader?_of_writable _ hc]
        exact hb
      · rw [hvalues, Headers.values_append_entry, if_pos rfl, List.append_assoc]
        rfl

structure LeadsTo (target : String) (cookies : List SetCookie) (a : Response) : Prop where
  status : a.status = 302
  location : a.headers.values .location = [⟨Utf8.encode target⟩]
  cookies : a.headers.values .setCookie = cookies.map fun c => ⟨Utf8.encode c.render⟩

theorem leadsTo_redirect {target : String} {cookies : List SetCookie}
    (hcookies : ∀ c ∈ cookies, IsWritable c.render) (htarget : IsWritable target) :
    (redirect target cookies).LeadsTo target cookies := by
  obtain ⟨b, hb, hvalues⟩ := exists_withCookies hcookies ⟨302, .empty, []⟩
  obtain ⟨hstatus, hothers⟩ := withCookies?_eq_some hb
  have hredirect : redirect target cookies =
      { b with headers := b.headers.append .location ⟨Utf8.encode target⟩ } := by
    rw [redirect, hb, Option.bind_some, withHeader?_of_writable _ htarget, Option.getD_some]
  rw [hredirect]
  refine ⟨hstatus, ?_, ?_⟩
  · rw [Headers.values_append_entry, if_pos rfl, hothers .location (by decide)]
    rfl
  · rw [Headers.values_append_entry, if_neg (by decide), List.append_nil, hvalues]
    rfl

theorem redirect_of_not_writable {target : String} (cookies : List SetCookie)
    (h : ¬ IsWritable target) : redirect target cookies = unwritable := by
  rw [redirect]
  cases (⟨302, .empty, []⟩ : Response).withCookies? cookies with
  | none => rfl
  | some b => rw [Option.bind_some, withHeader?_of_not_writable _ h, Option.getD_none]

end Response

end Http

theorem CookieIssuer.isWritable_removals (i : CookieIssuer) :
    ∀ c ∈ i.removals, Http.IsWritable c.render := by
  obtain ⟨key, secure⟩ := i
  -- no cookie of a removal depends on the key
  have hsame : (⟨key, secure⟩ : CookieIssuer).removals =
      (⟨.zero 32, secure⟩ : CookieIssuer).removals := rfl
  rw [hsame]
  cases secure <;> decide +kernel

namespace Url

open Http (IsWritable IsWritableChar)
open Percent (IsKept)

variable {c : Char}

/-! URLs that can stand in a header. -/

theorem isWritableChar_of_visible (hlow : 0x20 < c.toNat) (hhigh : c.toNat ≠ 0x7F) :
    IsWritableChar c :=
  .inr ⟨Nat.le_of_lt hlow, hhigh⟩

theorem isWritableChar_of_encode {escaped : Char → Bool} {cs : List Char}
    (hcontrol : ∀ d, Escape.isControl d = true → escaped d = true)
    (hpercent : IsKept escaped '%') (hdigit : ∀ n < 16, IsKept escaped (Hex.upperDigit n))
    (h : c ∈ Percent.encode escaped cs) : IsWritableChar c := by
  have hkept := (Percent.kept_of_mem_encode hpercent hdigit h).2
  have hplain : Escape.isControl c = false := by
    rw [← Bool.not_eq_true]
    intro hc
    rw [hcontrol c hc] at hkept
    cases hkept
  simp only [Escape.isControl, Bool.or_eq_false_iff, decide_eq_false_iff_not, beq_eq_false_iff_ne,
    ne_eq] at hplain
  exact .inr ⟨by omega, hplain.2⟩

theorem isWritableChar_of_isDigitCode (h : Host.IsDigitCode c.toNat) : IsWritableChar c := by
  unfold Host.IsDigitCode at h
  exact .inr ⟨by omega, by omega⟩

theorem isWritableChar_of_natChars {n : Nat} (h : c ∈ Decimal.natChars n) : IsWritableChar c :=
  isWritableChar_of_isDigitCode (.inl (Decimal.toNat_of_mem_natChars h))

/-- A host that was read has no control characters. -/
theorem isWritableChar_of_host {text : List Char} {host : Host} (h : Host.special text = .ok host)
    (hc : c ∈ host.chars) : IsWritableChar c := by
  rcases Host.special_cases h with
    ⟨-, groups, rfl, -⟩ | ⟨address, rfl⟩ | ⟨ds, name, rfl, hascii, -, -⟩
  · simp only [Host.chars, List.mem_cons, List.mem_append, List.not_mem_nil, or_false] at hc
    rcases hc with rfl | hinside | rfl
    · decide
    · cases Host.digit_or_colon_of_mem_chars hinside with
      | inl hdigit => exact isWritableChar_of_isDigitCode hdigit
      | inr hcolon => exact hcolon ▸ by decide
    · decide
  · simp only [Host.chars, Ipv4.chars, List.mem_append, List.mem_cons] at hc
    have hcase : c = '.' ∨ ∃ n, c ∈ Decimal.natChars n := by
      grind
    rcases hcase with rfl | ⟨n, hn⟩
    · decide
    · exact isWritableChar_of_natChars hn
  · have hallowed := Domain.not_forbidden_of_ascii? hascii c hc
    simp only [Domain.isForbidden, Bool.or_eq_false_iff, decide_eq_false_iff_not,
      beq_eq_false_iff_ne, ne_eq] at hallowed
    exact isWritableChar_of_visible (by omega) hallowed.1.2

theorem isWritableChar_of_mem_chars {segments : List (List Char)}
    (h : ∀ s ∈ segments, Segments.IsResolved s) (hc : c ∈ Segments.chars segments) :
    IsWritableChar c := by
  obtain ⟨hlow, hhigh, -⟩ := Route.visible_of_kept (Route.kept_of_mem_chars h hc).1
  exact isWritableChar_of_visible hlow (Nat.ne_of_lt hhigh)

/-- Query and fragment are escaped when an authority is read. -/
theorem tail_of_parseAuthority {scheme : Scheme} {cs : List Char} {u : Url}
    (h : parseAuthority scheme cs = .ok u) :
    (∀ q ∈ u.query, ∃ text, q = Percent.encode (Escape.inQuery scheme.isSpecial) text) ∧
      ∀ f ∈ u.fragment, ∃ text, f = Percent.encode Escape.inFragment text := by
  simp only [parseAuthority, Gateway.bind_eq_ok] at h
  obtain ⟨⟨a, left⟩, -, h⟩ := h
  rw [← Except.ok.inj h]
  constructor
  · intro q hq
    obtain ⟨text, -, rfl⟩ := Option.map_eq_some_iff.1 hq
    exact ⟨text, rfl⟩
  · intro f hf
    obtain ⟨text, -, rfl⟩ := Option.map_eq_some_iff.1 hf
    exact ⟨text, rfl⟩

/-- What stands behind the authority of a URL is escaped, so that it can be written. -/
theorem isWritableChar_of_mem_tailChars {scheme : Scheme} {cs : List Char} {u : Url}
    (h : parseAuthority scheme cs = .ok u) (hc : c ∈ u.tailChars) : IsWritableChar c := by
  -- query and fragment hold what was escaped when they were read
  obtain ⟨hquery, hfragment⟩ := tail_of_parseAuthority h
  rw [tailChars, List.mem_append] at hc
  cases hc with
  | inl hc =>
      split at hc
      · cases hc
      · next q hq =>
          obtain ⟨text, rfl⟩ := hquery q hq
          cases List.mem_cons.1 hc with
          | inl hmark => exact hmark ▸ by decide
          | inr hmem =>
              refine isWritableChar_of_encode (fun d hd => ?_) ?_ ?_ hmem
              · simp [Escape.inQuery, hd]
              · cases scheme.isSpecial <;> decide
              · cases scheme.isSpecial <;> decide
  | inr hc =>
      split at hc
      · cases hc
      · next f hf =>
          obtain ⟨text, rfl⟩ := hfragment f hf
          cases List.mem_cons.1 hc with
          | inl hmark => exact hmark ▸ by decide
          | inr hmem =>
              refine isWritableChar_of_encode (fun d hd => ?_) (by decide) (by decide) hmem
              simp [Escape.inFragment, hd]

theorem isWritableChar_of_mem_authority {scheme : Scheme} {a : Authority} (ha : a.IsRead scheme)
    (huser : a.userChars = []) (hc : c ∈ a.chars) : IsWritableChar c := by
  obtain ⟨text, hhost⟩ := ha.host
  rw [Authority.chars, huser, List.nil_append, List.mem_append] at hc
  cases hc with
  | inl hc => exact isWritableChar_of_host hhost hc
  | inr hc =>
      split at hc
      · cases hc
      · next n hn =>
          cases List.mem_cons.1 hc with
          | inl hcolon => exact hcolon ▸ by decide
          | inr hdigit => exact isWritableChar_of_natChars hdigit

/-- A URL with http or https that was read, and that names no user, can stand in a header. -/
theorem isWritable_render {s : String} {u : Url} (h : parse s = .ok u)
    (hweb : u.scheme = .http ∨ u.scheme = .https) (hanonymous : u.hasCredentials = false) :
    IsWritable u.render := by
  obtain ⟨a, text, hread, ha, hpath⟩ := parts_of_parse h hweb
  obtain ⟨cs, hauthority⟩ := exists_parseAuthority h hweb
  have hscheme : ∀ c ∈ u.scheme.chars ++ "://".toList, IsWritableChar c := by
    rcases hweb with hs | hs
    · simp [hs, Scheme.chars, IsWritableChar]
    · simp [hs, Scheme.chars, IsWritableChar]
  have horigin : u.originChars = u.scheme.chars ++ "://".toList ++ a.chars := by
    rw [originChars, ha, List.append_assoc]
    rfl
  intro c hc
  rw [render, String.toList_ofList, chars, horigin, pathChars_of_segments ha hpath, List.mem_append,
    List.mem_append, List.mem_append] at hc
  rcases hc with ((hc | hc) | hc) | hc
  · exact hscheme c hc
  · exact isWritableChar_of_mem_authority hread (userChars_of_not_hasCredentials ha hanonymous) hc
  · exact isWritableChar_of_mem_chars (fun s hs => Segments.isResolved_of_mem_ofChars hs) hc
  · exact isWritableChar_of_mem_tailChars hauthority hc

end Url

theorem Redirect.isWritable_of_validate {url : String} {hosts : List String} {u : Url}
    (h : validate url hosts = .ok u) : Http.IsWritable u.render := by
  have hpasses := validate_eq_ok_iff.1 h
  exact Url.isWritable_render hpasses.parsed (.inr hpasses.secure) hpasses.anonymous

namespace Gateway

open Http (IsWritable)
open Revocation (Ledger Service Store)

/-! Logging out at any store. -/

section AnyStore

variable {σ : Type} (g : Gateway) (service : Service σ) (store : σ) (now : Int64) (r : Request)

def handleLogoutAt : σ × Response :=
  match bodyFailure? r with
  | some failure => (store, failure)
  | none =>
    match returnUrls r.query with
    | _ :: _ :: _ =>
      (store, .ofText 400 ("Query deserialize error: duplicate field `" ++ returnUrlName ++ "`"))
    | found =>
      let (store, outcome) := g.authenticator.logoutAt service store now r r.body
      (store, g.logoutResponse found.head? outcome)

/-- A request that can be read, and whose logout the guard does not block. -/
structure Admits : Prop where
  whole : bodyFailure? r = none
  readable : (returnUrls r.query).length ≤ 1
  passed : (g.authenticator.logoutAt service store now r r.body).2 ≠ .rejected

/-- An answer that takes both cookies of a session and leads on. -/
def Completes (a : Response) : Prop :=
  ∃ target, a.LeadsTo target g.authenticator.issuer.removals ∧
    Authenticator.Removes g.authenticator.issuer.removals

def NamesReturn (hosts : List String) (query : String) : Prop :=
  ∃ url u, returnUrls query = [url] ∧ Redirect.validate url hosts = .ok u

variable {g service store now r}

/-- The gateway's own stores are stores like any other. -/
theorem handleLogoutAt_own (g : Gateway) (store : Store) (now : Int64) (r : Request) :
    g.handleLogoutAt Service.own store now r = g.handleLogout store now r := by
  have hlogout (found : Option String) :
      ((g.authenticator.logoutAt Service.own store now r r.body).1,
        g.logoutResponse found (g.authenticator.logoutAt Service.own store now r r.body).2) =
      g.logOut store now r found :=
    congrArg (fun p => (p.1, g.logoutResponse found p.2))
      (Authenticator.logoutAt_own g.authenticator store now r r.body)
  rw [handleLogoutAt, handleLogout]
  cases bodyFailure? r with
  | some failure => rfl
  | none =>
      obtain _ | ⟨url, _ | ⟨_, _⟩⟩ := returnUrls r.query
      · exact hlogout none
      · exact hlogout (some url)
      · rfl

/-- Whoever is let go is sent on, whatever has become of the store. -/
theorem Admits.answer_eq (h : g.Admits service store now r) :
    g.handleLogoutAt service store now r =
      ((g.authenticator.logoutAt service store now r r.body).1,
        .redirect (g.logoutLocation (returnUrls r.query).head?)
          g.authenticator.issuer.removals) := by
  -- the guard has let the request pass, so that the outcome is no rejection
  have houtcome : ∃ revoked, (g.authenticator.logoutAt service store now r r.body).2 =
      .loggedOut revoked g.authenticator.issuer.removals := by
    cases houtcome : (g.authenticator.logoutAt service store now r r.body).2 with
    | rejected => exact absurd houtcome h.passed
    | loggedOut revoked cookies =>
        obtain rfl := Authenticator.cookies_of_logoutAt houtcome
        exact ⟨revoked, rfl⟩
  obtain ⟨revoked, houtcome⟩ := houtcome
  have hreadable := h.readable
  rw [handleLogoutAt, h.whole]
  cases hfound : returnUrls r.query with
  | nil =>
      dsimp only
      rw [houtcome]
      rfl
  | cons url rest =>
      cases rest with
      | nil =>
          dsimp only
          rw [houtcome]
          rfl
      | cons other rest =>
          rw [hfound] at hreadable
          simp at hreadable

theorem isWritable_logoutLocation (h : (returnUrls r.query).length ≤ 1) :
    IsWritable (g.logoutLocation (returnUrls r.query).head?) ↔
      NamesReturn g.logoutHosts r.query ∨ IsWritable g.logoutTarget := by
  by_cases hnames : NamesReturn g.logoutHosts r.query
  · refine iff_of_true ?_ (.inl hnames)
    obtain ⟨url, u, hquery, hvalidate⟩ := hnames
    rw [hquery, List.head?_cons, logoutLocation, hvalidate]
    exact Redirect.isWritable_of_validate hvalidate
  · have htarget : g.logoutLocation (returnUrls r.query).head? = g.logoutTarget := by
      refine (logoutLocation_cases h).resolve_right ?_
      rintro ⟨url, u, hquery, hvalidate, -⟩
      exact hnames ⟨url, u, hquery, hvalidate⟩
    rw [htarget, or_iff_right hnames]

theorem not_completes_unwritable : ¬ g.Completes .unwritable := by
  rintro ⟨target, hleads, -⟩
  exact absurd hleads.status (by decide)

/-- Whether an admitted logout completes is a matter of the place it leads to. -/
theorem Admits.completes_iff (h : g.Admits service store now r) :
    (g.Completes (g.handleLogoutAt service store now r).2 ↔
      NamesReturn g.logoutHosts r.query ∨ IsWritable g.logoutTarget) ∧
    (g.Completes (g.handleLogoutAt service store now r).2 ∨
      (g.handleLogoutAt service store now r).2 = .unwritable) := by
  rw [h.answer_eq, ← isWritable_logoutLocation h.readable]
  dsimp only
  generalize g.logoutLocation (returnUrls r.query).head? = place
  by_cases hplace : IsWritable place
  · have hcompletes : g.Completes (.redirect place g.authenticator.issuer.removals) :=
      ⟨place, Response.leadsTo_redirect g.authenticator.issuer.isWritable_removals hplace,
        Authenticator.removes_removals g.authenticator.issuer⟩
    exact ⟨iff_of_true hcompletes hplace, .inl hcompletes⟩
  · rw [Response.redirect_of_not_writable _ hplace]
    exact ⟨iff_of_false not_completes_unwritable hplace, .inr rfl⟩

theorem logoutGuard_of_none {s : Settings} {key : Key} (hg : ofKey s key = .ok g)
    (h : s.logout.csrfProtection = "none") : g.authenticator.logoutGuard = .none := by
  obtain ⟨-, -, own, strategy, -, hstrategy, hguard⟩ := ofKey_eq_ok hg
  rw [h] at hstrategy
  have hsame : Csrf.Strategy.none = strategy := Except.ok.inj hstrategy
  rw [hguard, ← hsame]
  rfl

theorem admits_of_no_guard (hguard : g.authenticator.logoutGuard = .none)
    (hwhole : bodyFailure? r = none) (hreadable : (returnUrls r.query).length ≤ 1) :
    g.Admits service store now r := by
  refine ⟨hwhole, hreadable, fun hrejected => ?_⟩
  rw [Authenticator.logoutAt] at hrejected
  split at hrejected
  · cases hrejected
  · rw [hguard] at hrejected
    cases hrejected

end AnyStore

/-- With settings that pass the check, every logout that is not blocked takes both cookies and
leads on, at any store, exactly if the query names a URL that may be returned to or the
configured place has no control characters. The only other answer is a failure. -/
theorem logout_completes_iff_place_is_writable {s : Settings} (h : s.validate = .ok ())
    (key : Key) :
    ∃ g, ofKey s key = .ok g ∧
      (∀ store now r, g.handleLogoutAt Service.own store now r = g.handleLogout store now r) ∧
      ∀ (σ : Type) (service : Service σ) (store : σ) (now : Int64) (r : Request),
        g.Admits service store now r →
          (g.Completes (g.handleLogoutAt service store now r).2 ↔
            NamesReturn s.logout.allowedReturnHosts r.query ∨ IsWritable s.logout.redirectUrl) ∧
          (g.Completes (g.handleLogoutAt service store now r).2 ∨
            (g.handleLogoutAt service store now r).2 = .unwritable) := by
  have hsound := Settings.sound_of_problems (Settings.validate_eq_ok_iff.1 h)
  obtain ⟨g, hg⟩ := exists_ofKey hsound key
  obtain ⟨htarget, hhosts⟩ := logout_of_ofKey hg
  refine ⟨g, hg, handleLogoutAt_own g, fun σ service store now r hadmits => ?_⟩
  rw [← htarget, ← hhosts]
  exact hadmits.completes_iff

def departure (g : Gateway) : Request :=
  { g.authenticator.issuer.bearer plainFresh.nonce (plainPayload 3600) with path := "/auth/logout" }

theorem admits_departure {σ : Type} {g : Gateway} (hguard : g.authenticator.logoutGuard = .none)
    (service : Service σ) (store : σ) (now : Int64) : g.Admits service store now g.departure := by
  have hquery : (returnUrls "").length ≤ 1 := by decide
  exact admits_of_no_guard hguard rfl hquery

/-- Where the configured place is a plain path, a logout ends well even at a store that takes no
revocation. -/
theorem logout_completes_at_read_only_store :
    plainSettings.validate = .ok () ∧ ∃ g, ofKey plainSettings plainKey = .ok g ∧
      g.Admits Authenticator.readOnly () 3400 g.departure ∧
        g.Completes (g.handleLogoutAt Authenticator.readOnly () 3400 g.departure).2 := by
  have hvalid : plainSettings.validate = .ok () :=
    Settings.validate_eq_ok_iff.2 (by decide +kernel)
  obtain ⟨g, hg, -, hall⟩ := logout_completes_iff_place_is_writable hvalid plainKey
  have hadmits : g.Admits Authenticator.readOnly () 3400 g.departure :=
    admits_departure (logoutGuard_of_none hg rfl) _ _ _
  exact ⟨hvalid, g, hg, hadmits, ((hall _ _ _ _ _ hadmits).1).2 (.inr (by decide))⟩

/-- Settings that pass the check and in which the place behind a logout ends its line. -/
def brokenLineSettings : Settings :=
  { plainSettings with logout := { csrfProtection := "none", redirectUrl := "/bye\n" } }

/-- Behind such a place the session is revoked, and the client is told of a failure and keeps
its cookies. -/
theorem validated_settings_fail_behind_the_revocation :
    let l := Ledger.behind (.empty 64 1 (by decide)) ⟨1, 0.5⟩ .empty
    brokenLineSettings.validate = .ok () ∧ ∃ g l', ofKey brokenLineSettings plainKey = .ok g ∧
      g.Admits Service.own (.ledger l) 3400 g.departure ∧
      g.handleLogout (.ledger l) 3400 g.departure = (.ledger l', .unwritable) ∧
      Authenticator.HasRevoked l l' 3400 plainSession ∧
      ¬ g.Completes .unwritable ∧ Response.unwritable.status = 500 ∧
      Response.unwritable.headers.values .setCookie = [] := by
  intro l
  have hproblems : brokenLineSettings.problems = [] := by decide +kernel
  obtain ⟨g, hg⟩ := exists_ofKey (Settings.sound_of_problems hproblems) plainKey
  have hguard := logoutGuard_of_none hg rfl
  have hadmits : g.Admits Service.own (.ledger l) 3400 g.departure :=
    admits_departure hguard _ _ _
  have hsound : l.IsSound := ⟨rfl, Ledger.isCovered_behind _ _ _⟩
  have hpresented : g.authenticator.Presents g.departure plainSession.payload :=
    Authenticator.presents_iff.2
      (CookieIssuer.readPayload_bearer (plainPayload 3600).read_render)
  have hbears : g.authenticator.Bears l 3400 g.departure plainSession :=
    ⟨hpresented, by decide, by decide, fun t ht => nomatch ht⟩
  have hpasses : g.authenticator.logoutGuard.blocks
      (Authenticator.context g.departure g.departure.body) plainSession = false := by
    rw [hguard]
    rfl
  obtain ⟨l', hlogout, hrevoked⟩ :=
    Authenticator.logout_of_bears hsound (by decide) hbears hpasses
  have htarget : g.logoutLocation (returnUrls g.departure.query).head? = "/bye\n" :=
    (logout_of_ofKey hg).1
  -- the store is asked first, and the place is written into the answer afterwards
  have hanswer := hadmits.answer_eq
  rw [handleLogoutAt_own, Authenticator.logoutAt_own, hlogout, htarget,
    Response.redirect_of_not_writable _ (by decide)] at hanswer
  exact ⟨Settings.validate_eq_ok_iff.2 hproblems, g, l', hg, hadmits, hanswer, hrevoked,
    not_completes_unwritable, rfl, rfl⟩

end Gateway

end AuthGateway
