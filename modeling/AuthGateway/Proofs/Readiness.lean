import AuthGateway.Proofs.Configuration

/-!
Settings without a problem are settings that a gateway starts with. What validation
looks at and what the resolving of names looks at are separate readings of the same
settings: everything that the second could fail on is a problem of the first. All that
can still fail behind it is the session key.
-/
namespace AuthGateway

namespace Http

/-- A rule is read from a configured header unless the header has a problem. -/
theorem HeaderRule.exists_ofEntry {entry : String × String}
    (h : Settings.headerProblems entry = []) :
    ∃ rule, HeaderRule.ofEntry entry.1 entry.2 = .ok rule := by
  rw [Settings.headerProblems] at h
  split at h
  · next rule hrule => exact ⟨rule, hrule⟩
  · cases h

end Http

namespace Settings

variable {s : Settings}

theorem exists_of_isOk {ε α : Type} {x : Except ε α} (h : (!x.isOk) = false) : ∃ a, x = .ok a := by
  cases x with
  | error e => cases h
  | ok a => exact ⟨a, rfl⟩

/-- What settings without a problem offer to whoever resolves them. -/
structure Sound (s : Settings) : Prop where
  publicUrl : ∃ own, s.publicUrl = .ok own
  failurePolicy : ∃ policy, Revocation.FailurePolicy.ofName? s.revocation.failurePolicy = some policy
  logoutStrategy : ∃ strategy, Csrf.Strategy.ofName? s.logout.csrfProtection = some strategy
  profiles : ∀ p ∈ s.securityProfiles, profileProblems p = []
  routeProfile : ∀ r ∈ s.routes, ∃ p, s.profile? r.securityProfile = some p
  routeUpstream : ∀ r ∈ s.routes, ∃ u, Url.parse r.upstreamUrl = .ok u

/-- Without a problem, everything that the settings name can be resolved. -/
theorem sound_of_problems (h : s.problems = []) : s.Sound := by
  simp only [problems, List.append_eq_nil_iff, List.flatMap_eq_nil_iff, List.map_eq_nil_iff] at h
  obtain ⟨⟨⟨⟨⟨hbase, -⟩, hrevocation⟩, hlogout⟩, hprofiles⟩, hroutes⟩ := h
  simp only [revocationProblems, List.append_eq_nil_iff] at hrevocation
  simp only [routeProblems, List.append_eq_nil_iff] at hroutes
  have hpolicy := not_of_problemIf_eq_nil hrevocation.1.2
  have hstrategy := not_of_problemIf_eq_nil hlogout
  have hprofile := fun r hr => not_of_problemIf_eq_nil (hroutes r hr).1.1
  simp only [Option.isNone_eq_false_iff, Option.isSome_iff_exists] at hpolicy hstrategy hprofile
  exact {
    publicUrl := exists_of_isOk (not_of_problemIf_eq_nil hbase)
    failurePolicy := hpolicy
    logoutStrategy := hstrategy
    profiles := hprofiles
    routeProfile := hprofile
    routeUpstream := fun r hr => exists_of_isOk (not_of_problemIf_eq_nil (hroutes r hr).1.2) }

structure SoundProfile (p : SecurityProfile) : Prop where
  strategy : ∃ strategy, Csrf.Strategy.ofName? p.csrfProtection = some strategy
  safeMethods : ∀ m ∈ p.csrfSafeMethods, ∃ method, Http.Method.ofText? m = some method
  allowedMethods : ∀ m ∈ p.allowedMethods, ∃ method, Http.Method.ofText? m = some method
  someMethod : p.allowedMethods ≠ []
  headers : ∀ e ∈ p.responseHeaders.entries, ∃ rule, Http.HeaderRule.ofEntry e.1 e.2 = .ok rule

/-- Without a problem, everything that a profile names can be resolved. -/
theorem soundProfile_of_problems {p : SecurityProfile} (h : profileProblems p = []) :
    SoundProfile p := by
  simp only [profileProblems, List.append_eq_nil_iff, List.map_eq_nil_iff,
    List.flatMap_eq_nil_iff, List.filter_eq_nil_iff, Bool.not_eq_true,
    Option.isNone_eq_false_iff, Option.isSome_iff_exists] at h
  obtain ⟨⟨⟨hstrategy, hmethods⟩, hsome⟩, hheaders⟩ := h
  exact {
    strategy := by
      split at hstrategy
      · cases hstrategy
      · next hfound =>
          rwa [Bool.not_eq_true, Option.isNone_eq_false_iff, Option.isSome_iff_exists] at hfound
    safeMethods := fun m hm => hmethods m (List.mem_append_left _ hm)
    allowedMethods := fun m hm => hmethods m (List.mem_append_right _ hm)
    someMethod := by
      split at hsome
      · cases hsome
      · next hfound => simpa using hfound
    headers := fun e he => Http.HeaderRule.exists_ofEntry (hheaders e he) }

end Settings

namespace RouteTable

open Gateway (bind_eq_ok)

variable {ε α β : Type} {f : α → Except ε β}

theorem exists_mapM {xs : List α} (h : ∀ x ∈ xs, ∃ y, f x = .ok y) : ∃ ys, xs.mapM f = .ok ys := by
  induction xs with
  | nil => exact ⟨[], rfl⟩
  | cons x xs ih =>
      obtain ⟨⟨y, hy⟩, hxs⟩ := List.forall_mem_cons.1 h
      obtain ⟨ys, hys⟩ := ih hxs
      refine ⟨y :: ys, mapM_eq_ok_iff.2 ?_⟩
      rw [List.map_cons, List.map_cons, hy, mapM_eq_ok_iff.1 hys]

theorem length_of_mapM {xs : List α} {ys : List β} (h : xs.mapM f = .ok ys) :
    ys.length = xs.length := by
  have hlength := congrArg List.length (mapM_eq_ok_iff.1 h)
  rw [List.length_map, List.length_map] at hlength
  exact hlength.symm

theorem exists_methods (profile : String) {names : List String}
    (h : ∀ m ∈ names, ∃ method, Http.Method.ofText? m = some method) :
    ∃ found, methods profile names = .ok found := by
  refine exists_mapM fun m hm => ?_
  obtain ⟨method, hmethod⟩ := h m hm
  exact ⟨method, by rw [hmethod]⟩

theorem exists_headerRules {p : Settings.SecurityProfile}
    (h : ∀ e ∈ p.responseHeaders.entries, ∃ rule, Http.HeaderRule.ofEntry e.1 e.2 = .ok rule) :
    ∃ rules, headerRules p = .ok rules := by
  refine exists_mapM fun e he => ?_
  obtain ⟨rule, hrule⟩ := h e he
  exact ⟨rule, by rw [hrule]⟩

/-- A profile without a problem makes a policy, which lets some method pass. -/
theorem exists_policy {p : Settings.SecurityProfile} (hp : Settings.SoundProfile p) (own : Url)
    (session : Settings.Session) (allowAnonymous : Bool) :
    ∃ found, policy own session p allowAnonymous = .ok found ∧ found.allowedMethods ≠ [] := by
  obtain ⟨rules, hrules⟩ := exists_headerRules hp.headers
  obtain ⟨strategy, hstrategy⟩ := hp.strategy
  obtain ⟨safe, hsafe⟩ := exists_methods p.name hp.safeMethods
  obtain ⟨allowed, hallowed⟩ := exists_methods p.name hp.allowedMethods
  have hresolve : Csrf.Strategy.resolve p.csrfProtection = .ok strategy := by
    rw [Csrf.Strategy.resolve, hstrategy]
  refine ⟨{ Policy.ofSession (.ofStrategy own strategy) session with
    allowAnonymous, safeMethods := safe, allowedMethods := allowed, headerRules := rules }, ?_, ?_⟩
  · simp only [policy, bind_eq_ok]
    exact ⟨rules, hrules, strategy, hresolve, safe, hsafe, allowed, hallowed, rfl⟩
  · intro hnone
    have hlength := length_of_mapM hallowed
    rw [show allowed = [] from hnone] at hlength
    exact hp.someMethod (List.eq_nil_of_length_eq_zero hlength.symm)

theorem exists_route {s : Settings} (hs : s.Sound) (own : Url) {c : Settings.Route}
    (hc : c ∈ s.routes) :
    ∃ x, route own s c = .ok x ∧ x.policy.allowedMethods ≠ [] := by
  obtain ⟨p, hp⟩ := hs.routeProfile c hc
  obtain ⟨u, hu⟩ := hs.routeUpstream c hc
  have hmem : p ∈ s.securityProfiles := List.mem_of_find?_eq_some hp
  have hsound := Settings.soundProfile_of_problems (hs.profiles p hmem)
  obtain ⟨found, hfound, hsome⟩ := exists_policy hsound own s.session c.allowAnonymous
  refine ⟨⟨c.name, c.pathPrefix, u, found⟩, ?_, hsome⟩
  simp only [route, hp, hu, bind_eq_ok]
  exact ⟨p, rfl, u, rfl, found, hfound, rfl⟩

/-- A table that has one route for each that is configured, with times that leave room
and with some method allowed. -/
structure Serves (own : Url) (s : Settings) (t : RouteTable) : Prop where
  onePerRoute : ∃ found, s.routes.map (route own s) = found.map .ok ∧ t.routes.Perm found
  slides : ∀ x ∈ t.routes, x.policy.Slides
  someMethod : ∀ x ∈ t.routes, x.policy.allowedMethods ≠ []

theorem exists_table {s : Settings} (hs : s.Sound) (own : Url) :
    ∃ t, ofSettings own s = .ok t := by
  obtain ⟨found, hfound⟩ := exists_mapM fun c hc =>
    (exists_route hs own hc).imp fun _ h => h.1
  exact ⟨ofRoutes found, bind_eq_ok.2 ⟨found, hfound, rfl⟩⟩

/-- A table made from settings that pass serves each of their routes. -/
theorem serves_of_validate {s : Settings} (h : s.validate = .ok ()) {own : Url} {t : RouteTable}
    (ht : ofSettings own s = .ok t) : Serves own s t := by
  have hs := Settings.sound_of_problems (Settings.validate_eq_ok_iff.1 h)
  obtain ⟨found, hfound, htable⟩ := bind_eq_ok.1 ht
  have hperm : t.routes.Perm found := by
    rw [← Except.ok.inj htable]
    exact perm_routes_ofRoutes found
  have hroute : ∀ x ∈ t.routes, ∃ c ∈ s.routes, route own s c = .ok x := fun x hx =>
    exists_of_mem_mapM hfound (hperm.mem_iff.1 hx)
  refine ⟨⟨found, mapM_eq_ok_iff.1 hfound, hperm⟩, fun x hx => ?_, fun x hx => ?_⟩
  · obtain ⟨c, -, hc⟩ := hroute x hx
    obtain ⟨p, hp⟩ := route_eq_ok hc
    obtain ⟨hduration, hrenew⟩ := policy_eq_ok hp
    exact Settings.slides_of_validate h hduration hrenew
  · obtain ⟨c, hmem, hc⟩ := hroute x hx
    obtain ⟨y, hy, hsome⟩ := exists_route hs own hmem
    rw [Except.ok.inj (hc.symm.trans hy)]
    exact hsome

end RouteTable

namespace Gateway

open RouteTable (Serves)

/-- What settings promise that a gateway can start with: every name in them resolves,
and only the session key can be missing. -/
structure IsReady (s : Settings) : Prop where
  publicUrl : ∃ own, s.publicUrl = .ok own
  logoutStrategy : ∃ strategy, Csrf.Strategy.resolve s.logout.csrfProtection = .ok strategy
  failurePolicy : ∃ policy,
    Revocation.FailurePolicy.resolve s.revocation.failurePolicy = .ok policy
  table : ∀ own, ∃ t, RouteTable.ofSettings own s = .ok t ∧ Serves own s t
  keyAlone : ∀ files fresh e, ofSettings s files fresh = .error e ↔
    ∃ reason, (s.session.findKey files fresh).2 = .error reason ∧ e = .invalidKey reason

theorem exists_ofKey {s : Settings} (hs : s.Sound) (key : Key) : ∃ g, ofKey s key = .ok g := by
  obtain ⟨own, hown⟩ := hs.publicUrl
  obtain ⟨strategy, hstrategy⟩ := hs.logoutStrategy
  obtain ⟨policy, hpolicy⟩ := hs.failurePolicy
  obtain ⟨t, ht⟩ := RouteTable.exists_table hs own
  simp only [ofKey, Csrf.Strategy.resolve, Revocation.FailurePolicy.resolve, hown, hstrategy,
    hpolicy, bind_eq_ok]
  exact ⟨_, own, rfl, strategy, rfl, policy, rfl, t, ht, rfl⟩

/-- For settings that pass, nothing can fail but the search for a key. -/
theorem ofSettings_eq_error_iff {s : Settings} (h : s.validate = .ok ()) (files : Files)
    (fresh : Key) (e : ConfigurationError) :
    ofSettings s files fresh = .error e ↔
      ∃ reason, (s.session.findKey files fresh).2 = .error reason ∧ e = .invalidKey reason := by
  have hs := Settings.sound_of_problems (Settings.validate_eq_ok_iff.1 h)
  obtain ⟨own, hown⟩ := hs.publicUrl
  rw [ofSettings, h, hown]
  cases hkey : s.session.findKey files fresh with
  | mk files' result =>
      cases result with
      | error reason => simp [bind, Except.bind, eq_comm]
      | ok found =>
          obtain ⟨g, hg⟩ := exists_ofKey hs found.key
          simp [bind, Except.bind, hg, pure, Except.pure]

theorem isReady_of_validate {s : Settings} (h : s.validate = .ok ()) : IsReady s := by
  have hs := Settings.sound_of_problems (Settings.validate_eq_ok_iff.1 h)
  obtain ⟨strategy, hstrategy⟩ := hs.logoutStrategy
  obtain ⟨policy, hpolicy⟩ := hs.failurePolicy
  refine ⟨hs.publicUrl, ⟨strategy, ?_⟩, ⟨policy, ?_⟩, fun own => ?_, ofSettings_eq_error_iff h⟩
  · rw [Csrf.Strategy.resolve, hstrategy]
  · rw [Revocation.FailurePolicy.resolve, hpolicy]
  · obtain ⟨t, ht⟩ := RouteTable.exists_table hs own
    exact ⟨t, ht, RouteTable.serves_of_validate h ht⟩

theorem refused_of_no_table {s : Settings} {own : Url} {e : ConfigurationError}
    (h : RouteTable.ofSettings own s = .error e) :
    ∃ p ps, s.validate = .error (.invalid (p :: ps)) := by
  cases hproblems : s.problems with
  | nil =>
      obtain ⟨t, ht⟩ := RouteTable.exists_table (Settings.sound_of_problems hproblems) own
      rw [ht] at h
      cases h
  | cons p ps => exact ⟨p, ps, by rw [Settings.validate, hproblems]⟩

/-- Validation is complete: what passes is ready, and what would not make a table is
refused with a problem. -/
theorem validation_is_complete (s : Settings) :
    (s.validate = .ok () → IsReady s) ∧
      ∀ own e, RouteTable.ofSettings own s = .error e →
        ∃ p ps, s.validate = .error (.invalid (p :: ps)) :=
  ⟨isReady_of_validate, fun _ _ h => refused_of_no_table h⟩

def doubledSettings : Settings where
  application := { baseUrl := "http://[::1]" }
  securityProfiles := [
    { name := "open", csrfProtection := "none", allowedMethods := ["GET"] },
    { name := "open", responseHeaders := Dictionary.empty.insert "Server" "<<remove>>" }]
  routes := [{
    name := "all", pathPrefix := "/", upstreamUrl := "http://[::1]:3000/up",
    securityProfile := "open" }]

/-- Two profiles of one name are no problem, but no profile is one. -/
theorem doubled_profile_is_ready :
    doubledSettings.validate = .ok () ∧ IsReady doubledSettings ∧
      ∃ p ps, { doubledSettings with securityProfiles := [] }.validate =
        .error (.invalid (p :: ps)) := by
  have hvalidate : doubledSettings.validate = .ok () :=
    Settings.validate_eq_ok_iff.2 (by decide +kernel)
  obtain ⟨own, -⟩ := ((validation_is_complete doubledSettings).1 hvalidate).publicUrl
  exact ⟨hvalidate, (validation_is_complete doubledSettings).1 hvalidate,
    (validation_is_complete { doubledSettings with securityProfiles := [] }).2 own _ rfl⟩

end Gateway

end AuthGateway
