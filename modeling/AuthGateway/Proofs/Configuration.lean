import AuthGateway.Gateway

/-!
What a gateway takes over from its settings. Whatever the route, sessions last
as long and are renewed as late as the settings say, and settings that were
validated leave room between the two.
-/
namespace AuthGateway

namespace Policy

/-- A session lasts a minute at least, and is renewed only after some of that is over. -/
structure Slides (p : Policy) : Prop where
  minute : 60 ≤ p.duration.toNat
  room : p.renewWhenLessThan.toNat < p.duration.toNat

end Policy

namespace Settings

theorem not_of_problemIf_eq_nil {condition : Bool} {p : Problem}
    (h : problemIf condition p = []) : condition = false := by
  cases condition with
  | false => rfl
  | true => cases h

theorem validate_eq_ok_iff {s : Settings} : s.validate = .ok () ↔ s.problems = [] := by
  rw [validate]
  cases s.problems with
  | nil => simp
  | cons p ps => simp

/-- Times that pass the check leave room between a login and its renewal. -/
theorem slides_of_validate {s : Settings} (h : s.validate = .ok ()) {p : Policy}
    (hduration : p.duration = s.session.duration)
    (hrenew : p.renewWhenLessThan = s.session.renewWhenLessThan) : p.Slides := by
  have hsession : sessionProblems s.session = [] := by
    have hproblems := validate_eq_ok_iff.1 h
    simp only [problems, List.append_eq_nil_iff] at hproblems
    exact hproblems.1.1.1.1.2
  rw [sessionProblems, List.append_eq_nil_iff] at hsession
  have hshort := not_of_problemIf_eq_nil hsession.1
  have hlong := not_of_problemIf_eq_nil hsession.2
  rw [decide_eq_false_iff_not, UInt64.lt_iff_toNat_lt] at hshort
  rw [decide_eq_false_iff_not, UInt64.le_iff_toNat_le] at hlong
  have hsixty : (60 : UInt64).toNat = 60 := rfl
  constructor
  · rw [hduration]
    omega
  · rw [hduration, hrenew]
    omega

end Settings

namespace Gateway

theorem bind_eq_ok {ε α β : Type} {x : Except ε α} {f : α → Except ε β} {b : β} :
    x >>= f = .ok b ↔ ∃ a, x = .ok a ∧ f a = .ok b := by
  cases x <;> simp [bind, Except.bind]

end Gateway

namespace RouteTable

open Gateway (bind_eq_ok)

section

variable {ε α β : Type} {f : α → Except ε β} {xs : List α} {ys : List β}

theorem mapM_eq_ok_iff : xs.mapM f = .ok ys ↔ xs.map f = ys.map .ok := by
  induction xs generalizing ys with
  | nil => cases ys <;> simp [pure, Except.pure]
  | cons x xs ih =>
      rw [List.mapM_cons, bind_eq_ok, List.map_cons]
      constructor
      · rintro ⟨y, hy, hrest⟩
        obtain ⟨zs, hzs, hys⟩ := bind_eq_ok.1 hrest
        cases hys
        rw [hy, ih.1 hzs, List.map_cons]
      · intro h
        cases ys with
        | nil => cases h
        | cons y ys =>
            obtain ⟨hy, hys⟩ := List.cons.inj h
            exact ⟨y, hy, bind_eq_ok.2 ⟨ys, ih.2 hys, rfl⟩⟩

theorem exists_of_mem_mapM (h : xs.mapM f = .ok ys) {y : β} (hy : y ∈ ys) :
    ∃ x ∈ xs, f x = .ok y := by
  have hmem : .ok y ∈ xs.map f := by
    rw [mapM_eq_ok_iff.1 h]
    exact List.mem_map_of_mem hy
  exact List.mem_map.1 hmem

end

theorem perm_insertByLength (r : Route) (l : List Route) :
    (Route.insertByLength r l).Perm (r :: l) := by
  induction l with
  | nil => exact .refl _
  | cons s rest ih =>
      rw [Route.insertByLength]
      split
      · exact (ih.cons s).trans (.swap r s rest)
      · exact .refl _

/-- Ordering drops no route and doubles none. -/
theorem perm_routes_ofRoutes (l : List Route) : (ofRoutes l).routes.Perm l := by
  have hfold : ∀ sorted : List Route,
      (l.foldl (fun sorted r => Route.insertByLength r sorted) sorted).Perm (l ++ sorted) := by
    induction l with
    | nil => exact fun sorted => .refl sorted
    | cons r l ih =>
        intro sorted
        refine (ih _).trans ?_
        exact ((perm_insertByLength r sorted).append_left l).trans List.perm_middle
  have h := hfold []
  rwa [List.append_nil] at h

theorem policy_eq_ok {own : Url} {s : Settings.Session} {profile : Settings.SecurityProfile}
    {allowAnonymous : Bool} {p : Policy} (h : policy own s profile allowAnonymous = .ok p) :
    p.duration = s.duration ∧ p.renewWhenLessThan = s.renewWhenLessThan := by
  simp only [policy, bind_eq_ok] at h
  obtain ⟨_, -, _, -, _, -, _, -, h⟩ := h
  cases h
  exact ⟨rfl, rfl⟩

theorem route_eq_ok {own : Url} {s : Settings} {r : Settings.Route} {x : Route}
    (h : route own s r = .ok x) :
    ∃ profile, policy own s.session profile r.allowAnonymous = .ok x.policy := by
  rw [route] at h
  split at h
  · split at h
    · simp only [bind_eq_ok] at h
      obtain ⟨profile, -, _, -, p, hp, h⟩ := h
      cases h
      exact ⟨profile, hp⟩
    · cases h
  · cases h

end RouteTable

namespace Gateway

variable {g : Gateway}

theorem ofKey_eq_ok {s : Settings} {key : Key} (hg : ofKey s key = .ok g) :
    g.sessionPolicy = { Policy.ofSession .none s.session with allowAnonymous := true } ∧
      g.authenticator.issuer.key = key ∧ ∃ own strategy, s.publicUrl = .ok own ∧
        Csrf.Strategy.resolve s.logout.csrfProtection = .ok strategy ∧
        g.authenticator.logoutGuard = .ofStrategy own strategy := by
  simp only [ofKey, bind_eq_ok] at hg
  obtain ⟨own, hown, strategy, hstrategy, failurePolicy, -, routes, -, hg⟩ := hg
  cases hg
  exact ⟨rfl, rfl, own, strategy, hown, hstrategy, rfl⟩

theorem logout_of_ofKey {s : Settings} {key : Key} (hg : ofKey s key = .ok g) :
    g.logoutTarget = s.logout.redirectUrl ∧ g.logoutHosts = s.logout.allowedReturnHosts := by
  simp only [ofKey, bind_eq_ok] at hg
  obtain ⟨own, -, strategy, -, failurePolicy, -, routes, -, hg⟩ := hg
  cases hg
  exact ⟨rfl, rfl⟩

theorem routes_of_ofKey {s : Settings} {key : Key} (hg : ofKey s key = .ok g) :
    ∃ own, RouteTable.ofSettings own s = .ok g.routes := by
  simp only [ofKey, bind_eq_ok] at hg
  obtain ⟨own, -, strategy, -, failurePolicy, -, routes, hroutes, hg⟩ := hg
  cases hg
  exact ⟨own, hroutes⟩

theorem ofSettings_eq_ok {s : Settings} {files files' : Files} {fresh : Key}
    (h : ofSettings s files fresh = .ok (g, files')) :
    s.validate = .ok () ∧ ∃ key, ofKey s key = .ok g := by
  simp only [ofSettings, bind_eq_ok] at h
  obtain ⟨_, hvalidate, _, -, h⟩ := h
  refine ⟨hvalidate, ?_⟩
  split at h
  · cases h
  · obtain ⟨g', hg', h⟩ := bind_eq_ok.1 h
    cases h
    exact ⟨_, hg'⟩

def policies (g : Gateway) : List Policy :=
  g.sessionPolicy :: g.routes.routes.map (·.policy)

/-- All policies have the times of the settings. -/
theorem times_of_mem_policies {s : Settings} {key : Key} (hg : ofKey s key = .ok g) {p : Policy}
    (hp : p ∈ g.policies) :
    p.duration = s.session.duration ∧ p.renewWhenLessThan = s.session.renewWhenLessThan := by
  cases hp with
  | head =>
      rw [(ofKey_eq_ok hg).1]
      exact ⟨rfl, rfl⟩
  | tail _ hp =>
      obtain ⟨x, hx, rfl⟩ := List.mem_map.1 hp
      obtain ⟨own, hroutes⟩ := routes_of_ofKey hg
      obtain ⟨routes, hmap, htable⟩ := bind_eq_ok.1 hroutes
      rw [← Except.ok.inj htable, (RouteTable.perm_routes_ofRoutes _).mem_iff] at hx
      obtain ⟨r, -, hr⟩ := RouteTable.exists_of_mem_mapM hmap hx
      obtain ⟨profile, hpolicy⟩ := RouteTable.route_eq_ok hr
      exact RouteTable.policy_eq_ok hpolicy

theorem slides_of_mem_policies {s : Settings} {files files' : Files} {fresh : Key}
    (h : ofSettings s files fresh = .ok (g, files')) {p : Policy} (hp : p ∈ g.policies) :
    p.Slides := by
  obtain ⟨hvalidate, key, hg⟩ := ofSettings_eq_ok h
  obtain ⟨hduration, hrenew⟩ := times_of_mem_policies hg hp
  exact Settings.slides_of_validate hvalidate hduration hrenew

end Gateway

end AuthGateway
