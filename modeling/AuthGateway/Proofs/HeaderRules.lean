import AuthGateway.Proofs.Assertion
import AuthGateway.Proofs.Logout
import AuthGateway.Proofs.LogoutRedirect

/-!
What the header rules of a route come to. Of the rules on a name the last one counts,
and names without a rule are left alone. Every response of a route is under its rules,
whether an upstream was asked or not, except the one to an answer that breaks off.
-/
namespace AuthGateway

namespace Http

namespace Headers

theorem values_remove (h : Headers) (name other : HeaderName) :
    (h.remove name).values other = if name = other then [] else h.values other := by
  rw [remove, values_filter]
  by_cases hname : name = other
  · simp [hname]
  · simp [hname, beq_eq_false_iff_ne.2 (Ne.symm hname)]

theorem values_set (h : Headers) (name other : HeaderName) (v : HeaderValue) :
    (h.set name v).values other = if name = other then [v] else h.values other := by
  rw [set, values_append_entry, values_remove]
  by_cases hname : name = other
  · simp [hname]
  · simp [hname]

end Headers

namespace HeaderRule

variable {rules : List HeaderRule} {name : HeaderName}

def last? (rules : List HeaderRule) (name : HeaderName) : Option HeaderRule :=
  (rules.filter fun rule => rule.name == name).getLast?

/-- Headers that are as rules want them: a name with a rule has the value that its last
rule gives it and no other, or none if that rule takes it away. -/
def Governs (rules : List HeaderRule) (h : Headers) : Prop :=
  ∀ name rule, last? rules name = some rule → h.values name = rule.value?.toList

theorem values_apply (rule : HeaderRule) (h : Headers) (name : HeaderName) :
    (rule.apply h).values name =
      if rule.name = name then rule.value?.toList else h.values name := by
  cases rule with
  | set n v => exact Headers.values_set h n name v
  | remove n => exact Headers.values_remove h n name

theorem last?_cons (rule : HeaderRule) (rules : List HeaderRule) (name : HeaderName) :
    last? (rule :: rules) name =
      (last? rules name).or (if rule.name = name then some rule else none) := by
  rw [last?, last?, List.filter_cons]
  by_cases hname : rule.name = name
  · simp only [hname, beq_self_eq_true, if_true, List.getLast?_cons]
    cases (rules.filter fun rule => rule.name == name).getLast? with
    | none => rfl
    | some last => rfl
  · simp [hname]

/-- Rules in order leave each name with what its last rule says, and without a rule
with what it has. -/
theorem values_applyAll (rules : List HeaderRule) (h : Headers) (name : HeaderName) :
    (applyAll rules h).values name =
      ((last? rules name).map fun rule => rule.value?.toList).getD (h.values name) := by
  induction rules generalizing h with
  | nil => rfl
  | cons rule rules ih =>
      rw [applyAll, List.foldl_cons, ← applyAll, ih, values_apply, last?_cons]
      cases last? rules name with
      | some last => rfl
      | none =>
          split
          · rfl
          · rfl

theorem governs_applyAll (rules : List HeaderRule) (h : Headers) :
    Governs rules (applyAll rules h) := by
  intro name rule hrule
  rw [values_applyAll, hrule]
  rfl

end HeaderRule

end Http

namespace Gateway

open Forwarding (Incoming Outgoing)
open Http (HeaderName HeaderRule Request Response)
open Revocation (Store)

def Plan.BreaksOff (p : Plan) (upstream : Outgoing → Incoming) : Prop :=
  ∃ o route cookies, p = .ask o route cookies ∧ upstream o = .brokenOff

/-- What becomes of a request that is for a route: a body that is too large is not read,
an answer that breaks off is reported without more, and any other response is under
the rules of the route. -/
structure KeepsRules (route : Route) (upstream : Outgoing → Incoming) (r : Request) (p : Plan) :
    Prop where
  governed : bodyFailure? r = none → ¬ p.BreaksOff upstream →
    HeaderRule.Governs route.policy.headerRules (p.carryOut upstream).headers
  brokenOff : p.BreaksOff upstream → p.carryOut upstream = Forwarding.respond [] .brokenOff
  tooLarge : ∀ failure, bodyFailure? r = some failure → p.carryOut upstream = failure

variable {g : Gateway} {store : Store} {nonce : Octets 12} {now : Int64} {r : Request}
  {path : String} {route : Route} {upstream : Outgoing → Incoming}

theorem governs_underRules (route : Route) (a : Response) :
    HeaderRule.Governs route.policy.headerRules (underRules route a).headers :=
  HeaderRule.governs_applyAll _ _

/-- A route responds under its rules, or asks an upstream first. -/
theorem planRoute_cases (g : Gateway) (store : Store) (nonce : Octets 12) (now : Int64)
    (route : Route) (path : String) (r : Request) :
    (∃ a, g.planRoute store nonce now route path r = .respond (underRules route a)) ∨
      ∃ o cookies, g.planRoute store nonce now route path r = .ask o route cookies := by
  rw [planRoute]
  split
  · exact .inl ⟨_, rfl⟩
  · dsimp only
    split
    · exact .inl ⟨_, rfl⟩
    · split
      · exact .inl ⟨_, rfl⟩
      · split
        · exact .inl ⟨_, rfl⟩
        · exact .inr ⟨_, _, rfl⟩

theorem governs_finish {cookies : List Http.SetCookie} {i : Incoming} (hi : i ≠ .brokenOff) :
    HeaderRule.Governs route.policy.headerRules (finish route cookies i).headers := by
  cases i with
  | nothing => exact governs_underRules route _
  | brokenOff => exact absurd rfl hi
  | response a => exact governs_underRules route _

theorem governs_carryOut_planRoute
    (h : ¬ (g.planRoute store nonce now route path r).BreaksOff upstream) :
    HeaderRule.Governs route.policy.headerRules
      ((g.planRoute store nonce now route path r).carryOut upstream).headers := by
  rcases planRoute_cases g store nonce now route path r with ⟨a, ha⟩ | ⟨o, cookies, hask⟩
  · rw [ha]
    exact governs_underRules route a
  · rw [hask] at h ⊢
    exact governs_finish fun hbroken => h ⟨o, route, cookies, rfl, hbroken⟩

theorem carryOut_of_breaksOff {p : Plan} (h : p.BreaksOff upstream) :
    p.carryOut upstream = Forwarding.respond [] .brokenOff := by
  obtain ⟨o, route, cookies, rfl, hbroken⟩ := h
  rw [Plan.carryOut, hbroken]
  rfl

/-- Every response of a route keeps its rules, unless the answer of the upstream breaks
off or the body is too large to be read. -/
theorem route_keeps_rules (store : Store) (nonce : Octets 12) (now : Int64)
    (upstream : Outgoing → Incoming) (hpath : Route.normalizePath r.path = .ok path)
    (hroute : g.routes.find? path = some route) :
    KeepsRules route upstream r (g.planProxy store nonce now r) where
  governed := by
    intro hread hwhole
    rw [planProxy, hread] at hwhole ⊢
    dsimp only at hwhole ⊢
    rw [planForward_of_route hpath hroute] at hwhole ⊢
    exact governs_carryOut_planRoute hwhole
  brokenOff := carryOut_of_breaksOff
  tooLarge := by
    intro failure hfailure
    rw [planProxy, hfailure]
    rfl

def framedSettings : Settings where
  application := { baseUrl := "http://[::1]" }
  securityProfiles := [{
    name := "unframed", csrfProtection := "none",
    responseHeaders := Dictionary.empty.insert "X-Frame-Options" "DENY" }]
  routes := [{
    name := "all", pathPrefix := "/", upstreamUrl := "http://[::1]", securityProfile := "unframed",
    allowAnonymous := true }]

def visit : Request := ⟨.get, "/", "", .empty, []⟩

def frameRule : HeaderRule := .set ⟨"x-frame-options"⟩ ⟨Utf8.encode "DENY"⟩

/-- A visit is for the one route, and is reported without more if the answer breaks off. -/
theorem exists_framed_route :
    ∃ g route, ofKey framedSettings plainKey = .ok g ∧ g.routes.find? "/" = some route ∧
      route.policy.headerRules = [frameRule] ∧
        (g.planProxy plainIssued.store plainFresh.nonce 0 visit).carryOut (fun _ => .brokenOff) =
          Forwarding.respond [] .brokenOff := by
  have hruns : (ofKey framedSettings plainKey).toOption.any (fun g =>
      (g.routes.find? "/").map (·.policy.headerRules) = some [frameRule] ∧
        (g.planProxy plainIssued.store plainFresh.nonce 0 visit).carryOut (fun _ => .brokenOff) =
          Forwarding.respond [] .brokenOff) = true := by
    decide +kernel
  cases hg : ofKey framedSettings plainKey with
  | error e =>
      rw [hg] at hruns
      cases hruns
  | ok g =>
      rw [hg] at hruns
      obtain ⟨hrules, hbroken⟩ := of_decide_eq_true hruns
      obtain ⟨route, hroute, hrules⟩ := Option.map_eq_some_iff.1 hrules
      exact ⟨g, route, rfl, hroute, hrules, hbroken⟩

/-- Where there is no upstream, the visitor still gets the header of the rule. -/
theorem unreachable_route_keeps_rules :
    ∃ g route, ofKey framedSettings plainKey = .ok g ∧ g.routes.find? "/" = some route ∧
      ((g.planProxy plainIssued.store plainFresh.nonce 0 visit).carryOut
        fun _ => .nothing).headers.values frameRule.name = [⟨Utf8.encode "DENY"⟩] := by
  obtain ⟨g, route, hg, hroute, hrules, -⟩ := exists_framed_route
  have hpath : Route.normalizePath visit.path = .ok "/" := rfl
  have hkeeps := route_keeps_rules plainIssued.store plainFresh.nonce 0 (fun _ => .nothing)
    hpath hroute
  refine ⟨g, route, hg, hroute, hkeeps.governed rfl ?_ frameRule.name frameRule ?_⟩
  · rintro ⟨o, asked, cookies, -, hbroken⟩
    cases hbroken
  · rw [hrules]
    decide

def largeVisit : Request :=
  { visit with method := .post, body := List.replicate 262145 0 }

/-- There are two ways past the rules: an answer that breaks off behind a request that
is read, and a request that is not read behind any answer. -/
theorem rules_have_two_ways_past :
    (¬ ∀ (g : Gateway) (store : Store) (nonce : Octets 12) (now : Int64) (r : Request)
        (path : String) (route : Route) (upstream : Outgoing → Incoming),
      bodyFailure? r = none → Route.normalizePath r.path = .ok path →
        g.routes.find? path = some route →
          HeaderRule.Governs route.policy.headerRules
            ((g.planProxy store nonce now r).carryOut upstream).headers) ∧
      ¬ ∀ (g : Gateway) (store : Store) (nonce : Octets 12) (now : Int64) (r : Request)
          (path : String) (route : Route) (upstream : Outgoing → Incoming),
        (∀ o, upstream o ≠ .brokenOff) → Route.normalizePath r.path = .ok path →
          g.routes.find? path = some route →
            HeaderRule.Governs route.policy.headerRules
              ((g.planProxy store nonce now r).carryOut upstream).headers := by
  obtain ⟨g, route, -, hroute, hrules, hbroken⟩ := exists_framed_route
  have hpath : Route.normalizePath visit.path = .ok "/" := rfl
  have hlarge : bodyFailure? largeVisit = some (.ofText 413 "payload reached size limit") := by
    refine if_pos ?_
    rw [largeVisit, List.length_replicate]
    decide
  constructor
  · intro hall
    have hgoverns := hall g plainIssued.store plainFresh.nonce 0 visit "/" route
      (fun _ => .brokenOff) rfl hpath hroute
    rw [hbroken, hrules] at hgoverns
    exact absurd (hgoverns frameRule.name frameRule (by decide)) (by decide)
  · intro hall
    have hgoverns := hall g plainIssued.store plainFresh.nonce 0 largeVisit "/" route
      (fun _ => .nothing) (fun _ => nofun) hpath hroute
    -- the body is refused before there is a route
    rw [planProxy, hlarge, hrules] at hgoverns
    dsimp only [Plan.carryOut] at hgoverns
    exact absurd (hgoverns frameRule.name frameRule (by decide)) (by decide)

end Gateway

end AuthGateway
