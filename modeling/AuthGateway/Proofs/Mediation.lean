import AuthGateway.Gateway
import AuthGateway.Proofs.Decision
import AuthGateway.Proofs.Payloads

/-!
Complete mediation. An upstream hears of a request only if the path has a
canonical form, a route takes it, the route allows the method, and the caller is
trusted under the policy of the route; what it hears about the caller is what
the session says and nothing that the client has sent.
-/
namespace AuthGateway

open Http (HeaderName HeaderValue Headers Request Response)
open Revocation (Store)

namespace Forwarding

theorem isIdentityHeader_authorization : isIdentityHeader .authorization = false := by
  decide

theorem isIdentityHeader_userHeader : isIdentityHeader userHeader = true := by
  decide

theorem isIdentityHeader_providerHeader : isIdentityHeader providerHeader = true := by
  decide

def identityHeaders : Option Session → List (HeaderName × HeaderValue)
  | none => []
  | some s => [(userHeader, ⟨Utf8.encode s.payload.user.id⟩),
      (providerHeader, ⟨Utf8.encode s.payload.provider⟩)]

/-- Whatever becomes of its value, a header that is passed on keeps its name. -/
theorem exists_of_mem_requestHeaders {f : Filter} {h : Headers} {e : HeaderName × HeaderValue}
    (he : e ∈ (requestHeaders f h).entries) :
    ∃ d ∈ h.entries, e.1 = d.1 ∧ isDropped f d.1 = false := by
  obtain ⟨d, hmem, hd⟩ := List.mem_filterMap.1 he
  refine ⟨d, hmem, ?_⟩
  unfold requestHeader? at hd
  split at hd
  · cases hd
  · next hkept =>
      refine ⟨?_, by simpa using hkept⟩
      split at hd
      · cases hd
      · split at hd
        · obtain ⟨left, -, rfl⟩ := Option.map_eq_some_iff.1 hd
          rfl
        · cases hd
          rfl

theorem not_identity_of_mem_requestHeaders {f : Filter} {h : Headers} {e : HeaderName × HeaderValue}
    (he : e ∈ (requestHeaders f h).entries) : isIdentityHeader e.1 = false := by
  obtain ⟨d, -, hname, hkept⟩ := exists_of_mem_requestHeaders he
  simp only [isDropped, Bool.or_eq_false_iff] at hkept
  rw [hname]
  exact hkept.1.2

theorem areSendable_requestHeaders {f : Filter} {h : Headers} (hh : areSendable h = true) :
    areSendable (requestHeaders f h) = true := by
  rw [areSendable, List.all_eq_true] at hh ⊢
  intro e he
  obtain ⟨d, hmem, hname, -⟩ := exists_of_mem_requestHeaders he
  rw [hname]
  exact hh d hmem

theorem eq_of_ofText? {s : String} {v : HeaderValue} (h : HeaderValue.ofText? s = some v) :
    v = ⟨Utf8.encode s⟩ := by
  simp only [HeaderValue.ofText?, HeaderValue.ofBytes?] at h
  split at h
  · exact (Option.some.inj h).symm
  · cases h

theorem entries_of_withIdentity? {h h' : Headers} {session : Option Session}
    (hw : withIdentity? h session = some h') :
    h'.entries = h.entries ++ identityHeaders session := by
  cases session with
  | none =>
      obtain rfl : h = h' := by simpa [withIdentity?] using hw
      simp [identityHeaders]
  | some s =>
      simp only [withIdentity?, Option.bind_eq_bind, Option.bind_eq_some_iff] at hw
      obtain ⟨user, huser, provider, hprovider, hsome⟩ := hw
      obtain rfl := Option.some.inj hsome
      simp [Headers.append, identityHeaders, eq_of_ofText? huser, eq_of_ofText? hprovider]

theorem not_identity_of_mem_credentials? {u : Url} {e : HeaderName × HeaderValue}
    (he : e ∈ (credentials? u).toList) : isIdentityHeader e.1 = false := by
  simp only [Option.mem_toList, credentials?, Option.bind_eq_bind, Option.bind_eq_some_iff] at he
  obtain ⟨authority, -, user, -, hpair⟩ := he
  split at hpair
  · cases hpair
  · obtain rfl := Option.some.inj hpair
    exact isIdentityHeader_authorization

theorem filter_identity_withAccept (h : Headers) :
    (withAccept h).entries.filter (fun e => isIdentityHeader e.1) =
      h.entries.filter fun e => isIdentityHeader e.1 := by
  unfold withAccept
  split
  · rfl
  · have haccept : isIdentityHeader .accept = false := by decide
    simp [Headers.append, haccept]

theorem names_of_identityHeaders {session : Option Session} {e : HeaderName × HeaderValue}
    (he : e ∈ identityHeaders session) :
    session.isSome ∧ (e.1 = userHeader ∨ e.1 = providerHeader) := by
  cases session with
  | none => simp [identityHeaders] at he
  | some s =>
      simp only [identityHeaders, List.mem_cons, List.not_mem_nil, or_false] at he
      rcases he with rfl | rfl
      · exact ⟨rfl, .inl rfl⟩
      · exact ⟨rfl, .inr rfl⟩

/-- Of all headers of a request to an upstream those that assert an identity are
the gateway's own: user and provider of the session, and none without one. -/
theorem identity_of_outgoing? {r : Request} {url : Url} {session : Option Session} {o : Outgoing}
    (h : outgoing? r url session = some o) :
    o.headers.entries.filter (fun e => isIdentityHeader e.1) = identityHeaders session := by
  obtain ⟨-, -, hrest⟩ := Option.bind_eq_some_iff.1 h
  obtain ⟨headers, hheaders, hsome⟩ := Option.bind_eq_some_iff.1 hrest
  obtain ⟨-, -, hidentity⟩ := Option.bind_eq_some_iff.1 hheaders
  obtain rfl := Option.some.inj hsome
  -- neither the credentials of the URL nor what the client sent is an identity header
  have hcredentials : (credentials? url).toList.filter (fun e => isIdentityHeader e.1) = [] :=
    List.filter_eq_nil_iff.2 fun e he => by simp [not_identity_of_mem_credentials? he]
  have hpassed : (requestHeaders {} r.headers).entries.filter (fun e => isIdentityHeader e.1) = [] :=
    List.filter_eq_nil_iff.2 fun e he => by simp [not_identity_of_mem_requestHeaders he]
  have hown : (identityHeaders session).filter (fun e => isIdentityHeader e.1) =
      identityHeaders session := by
    refine List.filter_eq_self.2 fun e he => ?_
    rcases (names_of_identityHeaders he).2 with h | h
    · rw [h, isIdentityHeader_userHeader]
    · rw [h, isIdentityHeader_providerHeader]
  rw [filter_identity_withAccept, List.filter_append, hcredentials,
    entries_of_withIdentity? hidentity, List.filter_append, hpassed, hown]
  rfl

theorem values_of_identity {h : Headers} {n : HeaderName} (hn : isIdentityHeader n = true) :
    h.values n =
      ((h.entries.filter fun e => isIdentityHeader e.1).filter fun e => e.1 == n).map Prod.snd := by
  rw [Headers.values, List.filter_filter]
  congr 1
  refine List.filter_congr fun e _ => ?_
  by_cases he : e.1 = n
  · simp [he, hn]
  · simp [he]

def alice : Session :=
  ⟨⟨"s", "local", 60, ⟨"alice", .empty⟩, "t"⟩, 60, by decide⟩

end Forwarding

namespace Gateway

open Forwarding (Outgoing alice)

def decisionOn (g : Gateway) (store : Store) (nonce : Octets 12) (now : Int64) (r : Request)
    (route : Route) : Decision :=
  g.authenticator.authenticate store nonce now route.policy r r.body

/-- A caller who is trusted: one with a session, or anybody if the route says so. -/
inductive Trusted (route : Route) : Outcome → Prop where
  | anonymous (h : route.policy.allowAnonymous = true) : Trusted route .anonymous
  | authenticated (s : Session) : Trusted route (.authenticated s)

/-- What has to hold before an upstream hears of a request. -/
structure Admitted (g : Gateway) (store : Store) (nonce : Octets 12) (now : Int64) (r : Request)
    (path : String) (route : Route) : Prop where
  canonical : Route.normalizePath r.path = .ok path
  routed : g.routes.find? path = some route
  allowed : r.method ∈ route.policy.allowedMethods
  trusted : Trusted route (g.decisionOn store nonce now r route).outcome

/-- What a request to an upstream says of the caller: exactly what the session
says, and nothing if there is none. -/
structure Identifies (o : Outgoing) (session : Option Session) : Prop where
  user : o.headers.values ⟨"x-auth-request-user"⟩ =
    (session.map fun s => ⟨Utf8.encode s.payload.user.id⟩).toList
  provider : o.headers.values ⟨"x-auth-request-provider"⟩ =
    (session.map fun s => ⟨Utf8.encode s.payload.provider⟩).toList
  nothingElse : ∀ e ∈ o.headers.entries, "x-auth-request-".toList <+: e.1.text.toList →
    e.1.text = "x-auth-request-user" ∨ e.1.text = "x-auth-request-provider"

def Plan.IsRefusal (p : Plan) (status : Nat) : Prop :=
  ∃ response, p = .respond response ∧ response.status = status

/-- A request to an upstream says of the caller what was decided: a caller with a session is
named by it, an anonymous one is not named, and for a rejected one there is no request. -/
inductive NamesCaller (o : Outgoing) : Outcome → Prop where
  | authenticated {s : Session} (h : Identifies o (some s)) : NamesCaller o (.authenticated s)
  | anonymous (h : Identifies o none) : NamesCaller o .anonymous

structure Mediates (g : Gateway) (store : Store) (nonce : Octets 12) (now : Int64) (r : Request)
    (p : Plan) : Prop where
  asked : ∀ o route cookies, p = .ask o route cookies → ∃ path,
    g.Admitted store nonce now r path route ∧
      NamesCaller o (g.decisionOn store nonce now r route).outcome ∧
      cookies = (g.decisionOn store nonce now r route).cookies
  badRequest : (∀ path, Route.normalizePath r.path ≠ .ok path) → p.IsRefusal 400
  notFound : ∀ path, Route.normalizePath r.path = .ok path → g.routes.find? path = none →
    p.IsRefusal 404
  methodNotAllowed : ∀ path route, Route.normalizePath r.path = .ok path →
    g.routes.find? path = some route → r.method ∉ route.policy.allowedMethods → p.IsRefusal 405
  unauthorized : ∀ path route, Route.normalizePath r.path = .ok path →
    g.routes.find? path = some route → r.method ∈ route.policy.allowedMethods →
    ¬ Trusted route (g.decisionOn store nonce now r route).outcome → p.IsRefusal 401
  /-- Whoever is admitted gets through, unless the upstream cannot be asked at all. -/
  admitted : ∀ path route, g.Admitted store nonce now r path route →
    p.IsRefusal 502 ∨ ∃ o, p = .ask o route (g.decisionOn store nonce now r route).cookies

variable {g : Gateway} {store : Store} {nonce : Octets 12} {now : Int64} {r : Request}
  {path : String} {route : Route}

/-- A request that is sent on says of the caller what the session says. -/
theorem identifies_of_outgoing? {url : Url} {session : Option Session} {o : Outgoing}
    (h : Forwarding.outgoing? r url session = some o) : Identifies o session := by
  have hfilter := Forwarding.identity_of_outgoing? h
  constructor
  case user =>
    refine (Forwarding.values_of_identity Forwarding.isIdentityHeader_userHeader).trans ?_
    rw [hfilter]
    cases session with
    | none => rfl
    | some s => rfl
  case provider =>
    refine (Forwarding.values_of_identity Forwarding.isIdentityHeader_providerHeader).trans ?_
    rw [hfilter]
    cases session with
    | none => rfl
    | some s => rfl
  case nothingElse =>
    intro e he hprefix
    have hmem : e ∈ Forwarding.identityHeaders session := by
      rw [← hfilter]
      exact List.mem_filter.2 ⟨he, List.isPrefixOf_iff_prefix.2 hprefix⟩
    cases (Forwarding.names_of_identityHeaders hmem).2 with
    | inl huser => exact .inl (congrArg Http.HeaderName.text huser)
    | inr hprovider => exact .inr (congrArg Http.HeaderName.text hprovider)

theorem Trusted.namesCaller {o : Outgoing} {outcome : Outcome} (ht : Trusted route outcome)
    (h : Identifies o outcome.session?) : NamesCaller o outcome := by
  cases ht with
  | anonymous _ => exact .anonymous h
  | authenticated s => exact .authenticated h

theorem isRejected_iff_not_trusted {d : Decision}
    (hanonymous : d.outcome = .anonymous → route.policy.allowAnonymous = true) :
    d.outcome.isRejected = true ↔ ¬ Trusted route d.outcome := by
  cases h : d.outcome with
  | anonymous => simp [Outcome.isRejected, Trusted.anonymous (hanonymous h)]
  | authenticated s => simp [Outcome.isRejected, Trusted.authenticated s]
  | rejected reason =>
      simp only [Outcome.isRejected, true_iff]
      intro ht
      cases ht

theorem anonymous_allowed (h : (g.decisionOn store nonce now r route).outcome = .anonymous) :
    route.policy.allowAnonymous = true :=
  ((Authenticator.decide_follows_table g.authenticator _ nonce now route.policy r r.body).anonymous.1
    h).2

theorem isRefusal_refuse (refusal : Http.Refusal) :
    (Plan.respond (.refuse refusal)).IsRefusal refusal.status :=
  ⟨_, rfl, rfl⟩

theorem isRefusal_underRules (route : Route) (refusal : Http.Refusal) :
    (Plan.respond (underRules route (.refuse refusal))).IsRefusal refusal.status :=
  ⟨_, rfl, rfl⟩

theorem Plan.IsRefusal.ne_ask {p : Plan} {status : Nat} (h : p.IsRefusal status) (o : Outgoing)
    (route : Route) (cookies : List Http.SetCookie) : p ≠ .ask o route cookies := by
  obtain ⟨response, rfl, -⟩ := h
  exact fun h => nomatch h

/-! What a route makes of a request: it looks at the method, then at the caller,
and only then it asks. -/

theorem planRoute_of_not_allowed (h : r.method ∉ route.policy.allowedMethods) :
    (g.planRoute store nonce now route path r).IsRefusal 405 := by
  have hallowed : route.policy.isAllowed r.method = false := by
    simpa [Policy.isAllowed] using h
  simp only [planRoute, hallowed, Bool.not_false, if_true]
  exact isRefusal_underRules route .methodNotAllowed

theorem planRoute_eq_of_not_trusted (hm : r.method ∈ route.policy.allowedMethods)
    (h : ¬ Trusted route (g.decisionOn store nonce now r route).outcome) :
    g.planRoute store nonce now route path r =
      .respond (underRules route (.refuse .unauthorized)) := by
  have hallowed : route.policy.isAllowed r.method = true := by
    simpa [Policy.isAllowed] using hm
  have hrejected := (isRejected_iff_not_trusted anonymous_allowed).2 h
  rw [decisionOn] at hrejected
  simp only [planRoute, hallowed, hrejected, Bool.not_true, Bool.false_eq_true, if_false, if_true]

theorem planRoute_of_not_trusted (hm : r.method ∈ route.policy.allowedMethods)
    (h : ¬ Trusted route (g.decisionOn store nonce now r route).outcome) :
    (g.planRoute store nonce now route path r).IsRefusal 401 := by
  rw [planRoute_eq_of_not_trusted hm h]
  exact isRefusal_underRules route .unauthorized

theorem not_rejected_of_trusted
    (h : Trusted route (g.decisionOn store nonce now r route).outcome) :
    (g.decisionOn store nonce now r route).outcome.isRejected = false := by
  rw [← Bool.not_eq_true, isRejected_iff_not_trusted anonymous_allowed]
  exact fun hnot => hnot h

theorem planRoute_of_outgoing {url : Url} {o : Outgoing}
    (hm : r.method ∈ route.policy.allowedMethods)
    (h : Trusted route (g.decisionOn store nonce now r route).outcome)
    (hurl : route.upstreamUrl path r.query = .ok url)
    (ho : Forwarding.outgoing? r url (g.decisionOn store nonce now r route).outcome.session? =
      some o) :
    g.planRoute store nonce now route path r =
      .ask o route (g.decisionOn store nonce now r route).cookies := by
  have hallowed : route.policy.isAllowed r.method = true := by
    simpa [Policy.isAllowed] using hm
  have hrejected := not_rejected_of_trusted h
  rw [decisionOn] at hrejected ho ⊢
  simp only [planRoute, hallowed, hrejected, hurl, ho, Bool.not_true, Bool.false_eq_true, if_false]

/-- For a trusted caller the upstream is asked, unless there is no request to ask it with. -/
theorem planRoute_of_trusted (hm : r.method ∈ route.policy.allowedMethods)
    (h : Trusted route (g.decisionOn store nonce now r route).outcome) :
    (g.planRoute store nonce now route path r).IsRefusal 502 ∨
      ∃ o, g.planRoute store nonce now route path r =
          .ask o route (g.decisionOn store nonce now r route).cookies ∧
        NamesCaller o (g.decisionOn store nonce now r route).outcome := by
  have hallowed : route.policy.isAllowed r.method = true := by
    simpa [Policy.isAllowed] using hm
  have hrejected := not_rejected_of_trusted h
  rw [decisionOn] at hrejected h ⊢
  simp only [planRoute, hallowed, hrejected, Bool.not_true, Bool.false_eq_true, if_false]
  split
  · exact .inl (isRefusal_underRules route .badGateway)
  · split
    · exact .inl (isRefusal_underRules route .badGateway)
    · next ho => exact .inr ⟨_, rfl, h.namesCaller (identifies_of_outgoing? ho)⟩

/-! What forwarding makes of a request: it looks at the path, and then for a route. -/

theorem planForward_of_no_path (h : ∀ path, Route.normalizePath r.path ≠ .ok path) :
    (g.planForward store nonce now r).IsRefusal 400 := by
  unfold planForward
  split
  · exact isRefusal_refuse .badRequest
  · next path hpath => exact absurd hpath (h path)

theorem planForward_of_no_route (hpath : Route.normalizePath r.path = .ok path)
    (h : g.routes.find? path = none) : (g.planForward store nonce now r).IsRefusal 404 := by
  simp only [planForward, hpath, h]
  exact isRefusal_refuse .notFound

theorem planForward_of_route (hpath : Route.normalizePath r.path = .ok path)
    (h : g.routes.find? path = some route) :
    g.planForward store nonce now r = g.planRoute store nonce now route path r := by
  simp only [planForward, hpath, h]

/-- Whenever an upstream is asked, the caller was admitted to its route. -/
theorem asked_of_planForward {o : Outgoing} {cookies : List Http.SetCookie}
    (h : g.planForward store nonce now r = .ask o route cookies) :
    ∃ path, g.Admitted store nonce now r path route ∧
      NamesCaller o (g.decisionOn store nonce now r route).outcome ∧
      cookies = (g.decisionOn store nonce now r route).cookies := by
  -- each condition that fails makes a refusal, which asks nobody
  by_cases hpath : ∃ path, Route.normalizePath r.path = .ok path
  · obtain ⟨path, hpath⟩ := hpath
    cases hfind : g.routes.find? path with
    | none => exact absurd h ((planForward_of_no_route hpath hfind).ne_ask _ _ _)
    | some found =>
        rw [planForward_of_route hpath hfind] at h
        by_cases hm : r.method ∈ found.policy.allowedMethods
        · by_cases ht : Trusted found (g.decisionOn store nonce now r found).outcome
          · cases planRoute_of_trusted hm ht with
            | inl hrefused => exact absurd h (hrefused.ne_ask _ _ _)
            | inr hask =>
                obtain ⟨o', hplan, hnames⟩ := hask
                rw [h] at hplan
                cases hplan
                exact ⟨path, ⟨hpath, hfind, hm, ht⟩, hnames, rfl⟩
          · exact absurd h ((planRoute_of_not_trusted hm ht).ne_ask _ _ _)
        · exact absurd h ((planRoute_of_not_allowed hm).ne_ask _ _ _)
  · refine absurd h ((planForward_of_no_path fun path h => ?_).ne_ask _ _ _)
    exact hpath ⟨path, h⟩

/-- Every request is mediated: whatever it is, an upstream hears of it only if
all conditions hold, and else the first that fails decides on the status. -/
theorem forwarding_is_mediated (g : Gateway) (store : Store) (nonce : Octets 12) (now : Int64)
    (r : Request) : Mediates g store nonce now r (g.planForward store nonce now r) where
  asked := fun _ _ _ h => asked_of_planForward h
  badRequest := planForward_of_no_path
  notFound := fun _ hpath hfind => planForward_of_no_route hpath hfind
  methodNotAllowed := by
    intro path route hpath hfind hm
    rw [planForward_of_route hpath hfind]
    exact planRoute_of_not_allowed hm
  unauthorized := by
    intro path route hpath hfind hm ht
    rw [planForward_of_route hpath hfind]
    exact planRoute_of_not_trusted hm ht
  admitted := by
    intro path route h
    rw [planForward_of_route h.canonical h.routed]
    cases planRoute_of_trusted h.allowed h.trusted with
    | inl hrefused => exact .inl hrefused
    | inr hask =>
        obtain ⟨o, hplan, -⟩ := hask
        exact .inr ⟨o, hplan⟩

def onlyRoute : Route where
  name := "all"
  pathPrefix := "/"
  upstream := ⟨.http, some ⟨[], none, .ipv6 [0, 0, 0, 0, 0, 0, 0, 1], none⟩, .segments [[]],
    none, none⟩
  policy := .ofSession .none { renewWhenLessThan := 0 }

def onlyGateway : Gateway :=
  ⟨⟨⟨.zero 32, true⟩, .failClosed, .none, 250⟩, .ofRoutes [onlyRoute], onlyRoute.policy, "/", []⟩

def aliceVisit : Request :=
  onlyGateway.authenticator.issuer.bearer (.zero 12) alice.payload

theorem decisionOn_aliceVisit :
    onlyGateway.decisionOn (.slow 0) (.zero 12) 0 aliceVisit onlyRoute =
      ⟨.authenticated alice, []⟩ := by
  have hlive : onlyGateway.authenticator.IsLive
      (onlyGateway.authenticator.lookupIn (.slow 0) 0) 0 aliceVisit alice :=
    ⟨Authenticator.presents_iff.2 (CookieIssuer.readPayload_bearer alice.payload.read_render),
      by decide, by decide, .inl rfl⟩
  exact Authenticator.decide_of_passing hlive (.inl (by decide))

theorem exists_outgoing_aliceVisit :
    ∃ o, Forwarding.outgoing? aliceVisit onlyRoute.upstream (some alice) = some o := by
  have hsendable :
      Forwarding.areSendable (Forwarding.requestHeaders {} aliceVisit.headers) = true :=
    Forwarding.areSendable_requestHeaders rfl
  rw [Forwarding.outgoing?, Forwarding.upstreamHeaders?, hsendable]
  exact ⟨_, rfl⟩

/-- A request that brings Alice's session is put to the upstream as hers. -/
theorem alice_is_named :
    ∃ o, onlyGateway.planForward (.slow 0) (.zero 12) 0 aliceVisit = .ask o onlyRoute [] ∧
      o.headers.values ⟨"x-auth-request-user"⟩ = [⟨Utf8.encode "alice"⟩] ∧
      o.headers.values ⟨"x-auth-request-provider"⟩ = [⟨Utf8.encode "local"⟩] := by
  have hpath : Route.normalizePath aliceVisit.path = .ok "/" := rfl
  have hroute : onlyGateway.routes.find? "/" = some onlyRoute := rfl
  have hurl : onlyRoute.upstreamUrl "/" aliceVisit.query = .ok onlyRoute.upstream := rfl
  obtain ⟨o, ho⟩ := exists_outgoing_aliceVisit
  have htrusted : Trusted onlyRoute
      (onlyGateway.decisionOn (.slow 0) (.zero 12) 0 aliceVisit onlyRoute).outcome := by
    rw [decisionOn_aliceVisit]
    exact .authenticated alice
  have hplan : onlyGateway.planForward (.slow 0) (.zero 12) 0 aliceVisit =
      .ask o onlyRoute [] := by
    rw [planForward_of_route hpath hroute,
      planRoute_of_outgoing (by decide) htrusted hurl (by rw [decisionOn_aliceVisit]; exact ho),
      decisionOn_aliceVisit]
  obtain ⟨path, -, hnames, -⟩ :=
    (forwarding_is_mediated onlyGateway (.slow 0) (.zero 12) 0 aliceVisit).asked _ _ _ hplan
  rw [decisionOn_aliceVisit] at hnames
  cases hnames with
  | authenticated h => exact ⟨o, hplan, h.user, h.provider⟩

end Gateway

end AuthGateway
