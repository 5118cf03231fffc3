import AuthGateway.Proofs.Escapes
import AuthGateway.Proofs.HeaderRules
import AuthGateway.Proofs.Readiness

/-!
Header rules that were read from entries of a configuration. Names of entries are told apart
by the case of their letters and names of headers are not, so that several entries may be
about one header. The last of them counts. Rules that have been applied change nothing more,
and the order of two rules matters only if they are about one header. Entries of a profile
come in the order of their names, and the last one about a header has the greatest name.
-/
namespace AuthGateway

namespace Utf8

/-- Texts in ASCII are in the order of their bytes. -/
theorem encodeChars_lt {cs ds : List Char} (hcs : ∀ c ∈ cs, c.toNat < 0x80)
    (hds : ∀ d ∈ ds, d.toNat < 0x80) (h : cs < ds) : encodeChars cs < encodeChars ds := by
  rw [encodeChars_of_ascii hcs, encodeChars_of_ascii hds]
  induction cs generalizing ds with
  | nil =>
      cases ds with
      | nil => exact absurd h (List.lt_irrefl [])
      | cons d ds => exact List.nil_lt_cons _ _
  | cons c cs ih =>
      cases ds with
      | nil => exact absurd h (List.not_lt_nil _)
      | cons d ds =>
          obtain ⟨hc, hcs⟩ := List.forall_mem_cons.1 hcs
          obtain ⟨hd, hds⟩ := List.forall_mem_cons.1 hds
          rw [List.cons_lt_cons_iff] at h
          rw [List.map_cons, List.map_cons, List.cons_lt_cons_iff]
          cases h with
          | inl hlt =>
              refine .inl (UInt8.lt_iff_toNat_lt.2 ?_)
              rw [toNat_ofNat (by omega), toNat_ofNat (by omega)]
              exact hlt
          | inr heq => exact .inr ⟨congrArg _ (congrArg _ heq.1), ih hcs hds heq.2⟩

end Utf8

namespace Http

theorem HeaderName.isAscii_of_isNameChar {c : Char} (h : isNameChar c = true) :
    c.toNat < 0x80 := by
  have hmarks : ∀ c ∈ "!*+-.^_|~".toList ++ "#$%&'\"".toList, c.toNat < 0x80 := by simp
  simp only [isNameChar, Method.isNameChar, Bool.or_eq_true, beq_iff_eq,
    List.contains_iff_mem] at h
  rcases h with ((halphanumeric | hcode) | hmark) | hmark
  · exact (Route.kept_of_isUnreserved (by simp [Route.isUnreserved, halphanumeric])).1
  · omega
  · exact hmarks c (List.mem_append_left _ hmark)
  · exact hmarks c (List.mem_append_right _ hmark)

theorem HeaderName.of_ofText? {s : String} {name : HeaderName} (h : ofText? s = some name) :
    name = ⟨Ascii.lower s⟩ ∧ ∀ c ∈ s.toList, c.toNat < 0x80 := by
  simp only [ofText?] at h
  split at h
  · next hname =>
      cases h
      exact ⟨rfl, fun c hc => isAscii_of_isNameChar (List.all_eq_true.1 hname.2.2 c hc)⟩
  · cases h

namespace HeaderRule

variable {entries : List (String × String)} {rules : List HeaderRule} {rule : HeaderRule}
  {name : HeaderName}

def readAll (entries : List (String × String)) : Except ReadError (List HeaderRule) :=
  entries.mapM fun e => ofEntry e.1 e.2

def lastNamed? (entries : List (String × String)) (spelled : String) : Option (String × String) :=
  (entries.filter fun e => Ascii.sameIgnoringCase e.1 spelled).getLast?

def entryValues (e : String × String) : List HeaderValue :=
  if e.2 = removalMarker then [] else [⟨Utf8.encode e.2⟩]

/-- An entry has the greatest name, in the order of bytes, of all that are about a header. -/
def IsGreatest (entries : List (String × String)) (spelled : String) (e : String × String) :
    Prop :=
  ∀ e' ∈ entries, Ascii.sameIgnoringCase e'.1 spelled = true →
    e' = e ∨ Utf8.encode e'.1 < Utf8.encode e.1

structure Settles (entries : List (String × String)) (rules : List HeaderRule) : Prop where
  lastCounts : ∀ spelled name e, HeaderName.ofText? spelled = some name →
    lastNamed? entries spelled = some e → ∀ h, (applyAll rules h).values name = entryValues e
  othersStay : ∀ spelled name, HeaderName.ofText? spelled = some name →
    lastNamed? entries spelled = none → ∀ h, (applyAll rules h).values name = h.values name
  onceIsEnough : ∀ h, applyAll rules (applyAll rules h) = applyAll rules h
  /-- Two neighbours about different headers may change places. -/
  swapped : ∀ front a b back, rules = front ++ a :: b :: back → a.name ≠ b.name →
    ∀ h, (applyAll (front ++ b :: a :: back) h).SameValues (applyAll rules h)

/-! What an entry says. -/

/-- A rule that was read is about the header and leaves the values that its entry says. -/
theorem of_ofEntry {e : String × String} (h : ofEntry e.1 e.2 = .ok rule) :
    HeaderName.ofText? e.1 = some rule.name ∧ rule.value?.toList = entryValues e := by
  rw [ofEntry] at h
  split at h
  · cases h
  · next n hn =>
      split at h
      · next hremoved =>
          cases h
          rw [entryValues, if_pos hremoved]
          exact ⟨hn, rfl⟩
      · next hkept =>
          split at h
          · cases h
          · next v hv =>
              cases h
              rw [HeaderValue.ofText?, HeaderValue.ofBytes?] at hv
              split at hv
              · cases hv
                rw [entryValues, if_neg hkept]
                exact ⟨hn, rfl⟩
              · cases hv

theorem readAll_cons {e : String × String} (h : readAll (e :: entries) = .ok rules) :
    ∃ rule rest, rules = rule :: rest ∧ ofEntry e.1 e.2 = .ok rule ∧
      readAll entries = .ok rest := by
  rw [readAll, List.mapM_cons, Gateway.bind_eq_ok] at h
  obtain ⟨rule, hrule, h⟩ := h
  obtain ⟨rest, hrest, h⟩ := Gateway.bind_eq_ok.1 h
  cases h
  exact ⟨rule, rest, rfl, hrule, hrest⟩

theorem lastNamed?_cons (e : String × String) (entries : List (String × String))
    (spelled : String) :
    lastNamed? (e :: entries) spelled = (lastNamed? entries spelled).or
      (if Ascii.sameIgnoringCase e.1 spelled = true then some e else none) := by
  rw [lastNamed?, lastNamed?, List.filter_cons]
  split
  · rw [List.getLast?_cons]
    cases (entries.filter fun e => Ascii.sameIgnoringCase e.1 spelled).getLast? with
    | none => rfl
    | some last => rfl
  · rw [Option.or_none]

/-- The last rule on a name says what the last entry with it says. -/
theorem last?_of_readAll (h : readAll entries = .ok rules) {spelled : String}
    (hname : HeaderName.ofText? spelled = some name) :
    (last? rules name).map (·.value?.toList) = (lastNamed? entries spelled).map entryValues := by
  induction entries generalizing rules with
  | nil =>
      cases h
      rfl
  | cons e entries ih =>
      obtain ⟨rule, rest, rfl, hrule, hrest⟩ := readAll_cons h
      obtain ⟨hspelled, hvalue⟩ := of_ofEntry hrule
      have hsame : rule.name = name ↔ Ascii.sameIgnoringCase e.1 spelled = true := by
        rw [(HeaderName.of_ofText? hspelled).1, (HeaderName.of_ofText? hname).1,
          HeaderName.mk.injEq, Ascii.sameIgnoringCase, beq_iff_eq]
      rw [last?_cons, lastNamed?_cons, Option.map_or, Option.map_or, ih hrest]
      congr 1
      by_cases hrule : rule.name = name
      · rw [if_pos hrule, if_pos (hsame.1 hrule), Option.map_some, Option.map_some, hvalue]
      · rw [if_neg hrule, if_neg (mt hsame.2 hrule), Option.map_none, Option.map_none]

theorem values_of_readAll (h : readAll entries = .ok rules) {spelled : String}
    (hname : HeaderName.ofText? spelled = some name) (headers : Headers) :
    (applyAll rules headers).values name =
      ((lastNamed? entries spelled).map entryValues).getD (headers.values name) := by
  rw [values_applyAll, last?_of_readAll h hname]

theorem isAscii_of_readAll (h : readAll entries = .ok rules) {e : String × String}
    (he : e ∈ entries) : ∀ c ∈ e.1.toList, c.toNat < 0x80 := by
  induction entries generalizing rules with
  | nil => cases he
  | cons e' entries ih =>
      obtain ⟨rule, rest, -, hrule, hrest⟩ := readAll_cons h
      cases he with
      | head => exact (HeaderName.of_ofText? (of_ofEntry hrule).1).2
      | tail _ he => exact ih hrest he

/-- Among ascending names the last one about a header is the greatest. -/
theorem isGreatest_of_last (h : readAll entries = .ok rules)
    (hascending : entries.Pairwise fun a b => a.1 < b.1) {spelled : String} {e : String × String}
    (he : lastNamed? entries spelled = some e) : IsGreatest entries spelled e := by
  obtain ⟨front, hfront⟩ := List.getLast?_eq_some_iff.1 he
  have hsorted := hascending.filter fun e => Ascii.sameIgnoringCase e.1 spelled
  rw [hfront, List.pairwise_append] at hsorted
  have hmem {x : String × String} (hx : x ∈ front ++ [e]) : x ∈ entries := by
    rw [← hfront] at hx
    exact (List.mem_filter.1 hx).1
  intro e' he' hsame
  have hin : e' ∈ front ++ [e] := by
    rw [← hfront]
    exact List.mem_filter.2 ⟨he', hsame⟩
  cases List.mem_append.1 hin with
  | inl hbefore =>
      have hlt := hsorted.2.2 e' hbefore e (List.mem_singleton_self e)
      exact .inr (Utf8.encodeChars_lt (isAscii_of_readAll h he')
        (isAscii_of_readAll h (hmem (by simp))) hlt)
  | inr hlast => exact .inl (List.mem_singleton.1 hlast)

/-! Rules that are applied again. -/

def added : HeaderRule → List (HeaderName × HeaderValue)
  | .set n v => [(n, v)]
  | .remove _ => []

theorem entries_apply (rule : HeaderRule) (h : Headers) :
    (rule.apply h).entries = h.entries.filter (fun e => !(e.1 == rule.name)) ++ rule.added := by
  cases rule with
  | set n v => rfl
  | remove n => exact (List.append_nil _).symm

theorem isNone_last?_cons (rule : HeaderRule) (rules : List HeaderRule) (name : HeaderName) :
    (last? (rule :: rules) name).isNone = ((last? rules name).isNone && !(name == rule.name)) := by
  rw [last?_cons, Option.isNone_or]
  by_cases hname : rule.name = name
  · simp [hname]
  · simp [hname, Ne.symm hname]

/-- Rules leave the headers that they do not name, and put the same behind any headers. -/
theorem entries_applyAll (rules : List HeaderRule) (h : Headers) :
    (applyAll rules h).entries =
      h.entries.filter (fun e => (last? rules e.1).isNone) ++ (applyAll rules .empty).entries := by
  induction rules generalizing h with
  | nil =>
      have hall : h.entries.filter (fun e => (last? [] e.1).isNone) = h.entries :=
        List.filter_eq_self.2 fun _ _ => rfl
      rw [hall]
      exact (List.append_nil _).symm
  | cons rule rules ih =>
      have hcons (h : Headers) : applyAll (rule :: rules) h = applyAll rules (rule.apply h) := rfl
      have hempty : (rule.apply .empty).entries = rule.added := entries_apply rule .empty
      rw [hcons, hcons, ih, ih (rule.apply .empty), entries_apply, hempty, List.filter_append,
        List.filter_filter, List.append_assoc]
      simp only [isNone_last?_cons]

theorem isSome_of_mem_applyAll {e : HeaderName × HeaderValue}
    (h : e ∈ (applyAll rules .empty).entries) : (last? rules e.1).isSome = true := by
  have hvalue : e.2 ∈ (applyAll rules .empty).values e.1 := Headers.mem_values_iff.2 h
  rw [values_applyAll] at hvalue
  cases hlast : last? rules e.1 with
  | none =>
      rw [hlast] at hvalue
      cases hvalue
  | some rule => rfl

/-- Rules that were applied change nothing when they are applied again. -/
theorem applyAll_applyAll (rules : List HeaderRule) (h : Headers) :
    applyAll rules (applyAll rules h) = applyAll rules h := by
  have hnamed :
      (applyAll rules .empty).entries.filter (fun e => (last? rules e.1).isNone) = [] := by
    rw [List.filter_eq_nil_iff]
    intro e he hnone
    rw [Option.isNone_iff_eq_none] at hnone
    have hsome := isSome_of_mem_applyAll he
    rw [hnone] at hsome
    cases hsome
  have hentries : (applyAll rules (applyAll rules h)).entries = (applyAll rules h).entries := by
    rw [entries_applyAll rules (applyAll rules h), entries_applyAll rules h, List.filter_append,
      hnamed, List.append_nil, List.filter_filter]
    simp only [Bool.and_self]
  exact congrArg Headers.mk hentries

/-! Rules in another order. -/

theorem last?_swap {a b : HeaderRule} (hne : a.name ≠ b.name) (front back : List HeaderRule)
    (name : HeaderName) :
    last? (front ++ b :: a :: back) name = last? (front ++ a :: b :: back) name := by
  have hpair : (b :: a :: back).filter (fun rule => rule.name == name) =
      (a :: b :: back).filter fun rule => rule.name == name := by
    by_cases ha : a.name = name
    · have hb : b.name ≠ name := fun heq => hne (ha.trans heq.symm)
      simp [ha, hb]
    · simp [List.filter_cons, ha]
  rw [last?, last?, List.filter_append, List.filter_append, hpair]

/-- What is read off some entries does to headers what the entries say. -/
theorem settles_of_readAll (h : readAll entries = .ok rules) : Settles entries rules where
  lastCounts := by
    intro spelled name e hname he headers
    rw [values_of_readAll h hname, he]
    rfl
  othersStay := by
    intro spelled name hname hnone headers
    rw [values_of_readAll h hname, hnone]
    rfl
  onceIsEnough := applyAll_applyAll rules
  swapped := by
    rintro front a b back rfl hne headers name
    rw [values_applyAll, values_applyAll, last?_swap hne]

end HeaderRule

end Http

namespace RouteTable

open Gateway (bind_eq_ok)
open Http (HeaderRule)
open Http.HeaderRule (IsGreatest Settles isGreatest_of_last lastNamed? readAll settles_of_readAll)

variable {s : Settings} {p : Settings.SecurityProfile} {rules : List HeaderRule} {own : Url}

/-- The rules of a profile are read off its entries in their order. -/
theorem readAll_of_headerRules (h : headerRules p = .ok rules) :
    readAll p.responseHeaders.entries = .ok rules := by
  rw [headerRules] at h
  generalize p.responseHeaders.entries = entries at h
  induction entries generalizing rules with
  | nil =>
      cases h
      rfl
  | cons e entries ih =>
      rw [List.mapM_cons, bind_eq_ok] at h
      obtain ⟨rule, hrule, h⟩ := h
      obtain ⟨rest, hrest, h⟩ := bind_eq_ok.1 h
      cases h
      have hread : HeaderRule.ofEntry e.1 e.2 = .ok rule := by
        split at hrule
        · next r hr =>
            cases hrule
            exact hr
        · cases hrule
      rw [readAll, List.mapM_cons, bind_eq_ok]
      exact ⟨rule, hread, bind_eq_ok.2 ⟨rest, ih hrest, rfl⟩⟩

theorem exists_profile {c : Settings.Route} {x : Route} (h : route own s c = .ok x) :
    ∃ p, s.profile? c.securityProfile = some p ∧ x.name = c.name ∧
      readAll p.responseHeaders.entries = .ok x.policy.headerRules := by
  rw [route] at h
  split at h
  · next p hp =>
      split at h
      · simp only [bind_eq_ok, policy] at h
        obtain ⟨p', hp', _, -, found, ⟨rules, hrules, _, -, _, -, _, -, hfound⟩, h⟩ := h
        cases hp'
        cases h
        cases hfound
        exact ⟨p, hp, rfl, readAll_of_headerRules hrules⟩
      · cases h
  · cases h

/-- Of all rules on a header the last one counts, once and for all, and nothing else moves.
The rules of a configured route are those of its profile, where the last one on a header is
the one with the greatest name. -/
theorem last_rule_of_a_header_counts :
    (∀ entries rules, readAll entries = .ok rules → Settles entries rules) ∧
      ∀ (own : Url) (s : Settings) (t : RouteTable), ofSettings own s = .ok t →
        ∀ x ∈ t.routes, ∃ c ∈ s.routes, ∃ p, s.profile? c.securityProfile = some p ∧
          x.name = c.name ∧ readAll p.responseHeaders.entries = .ok x.policy.headerRules ∧
          ∀ spelled e, lastNamed? p.responseHeaders.entries spelled = some e →
            IsGreatest p.responseHeaders.entries spelled e := by
  refine ⟨fun entries rules => settles_of_readAll, fun own s t ht x hx => ?_⟩
  obtain ⟨found, hfound, htable⟩ := bind_eq_ok.1 ht
  have hmem : x ∈ found := by
    rw [← (perm_routes_ofRoutes found).mem_iff, show ofRoutes found = t from Except.ok.inj htable]
    exact hx
  obtain ⟨c, hc, hroute⟩ := exists_of_mem_mapM hfound hmem
  obtain ⟨p, hp, hname, hread⟩ := exists_profile hroute
  exact ⟨c, hc, p, hp, hname, hread, fun spelled e =>
    isGreatest_of_last hread p.responseHeaders.ascending⟩

def twiceNamed : Settings.SecurityProfile where
  name := "unframed"
  csrfProtection := "none"
  responseHeaders :=
    (Dictionary.empty.insert "x-frame-options" "SAMEORIGIN").insert "X-Frame-Options" "DENY"

def twiceNamedSettings : Settings where
  application := { baseUrl := "http://[::1]" }
  securityProfiles := [twiceNamed]
  routes := [{
    name := "all", pathPrefix := "/", upstreamUrl := "http://[::1]", securityProfile := "unframed",
    allowAnonymous := true }]

/-- The name in small letters is the greater one, so that its entry counts. -/
theorem small_letters_count :
    ∃ own t, twiceNamedSettings.publicUrl = .ok own ∧ ofSettings own twiceNamedSettings = .ok t ∧
      Utf8.encode "X-Frame-Options" < Utf8.encode "x-frame-options" ∧
      ∃ x ∈ t.routes, ∀ h, (HeaderRule.applyAll x.policy.headerRules h).values
        ⟨"x-frame-options"⟩ = [⟨Utf8.encode "SAMEORIGIN"⟩] := by
  have hproblems : twiceNamedSettings.problems = [] := by decide +kernel
  have hvalid : twiceNamedSettings.validate = .ok () := Settings.validate_eq_ok_iff.2 hproblems
  have hsound := Settings.sound_of_problems hproblems
  obtain ⟨own, hown⟩ := hsound.publicUrl
  obtain ⟨t, ht⟩ := exists_table hsound own
  obtain ⟨x, hx⟩ : ∃ x, x ∈ t.routes := by
    obtain ⟨found, hfound, hperm⟩ := (serves_of_validate hvalid ht).onePerRoute
    cases found with
    | nil => cases hfound
    | cons x found => exact ⟨x, hperm.mem_iff.2 List.mem_cons_self⟩
  -- the table has one route only, and it is of this profile
  obtain ⟨c, hc, p, hp, -, hread, hgreatest⟩ :=
    last_rule_of_a_header_counts.2 own twiceNamedSettings t ht x hx
  obtain rfl := List.mem_singleton.1 hc
  obtain rfl : twiceNamed = p := Option.some.inj hp
  have hlast : lastNamed? twiceNamed.responseHeaders.entries "X-Frame-Options" =
      some ("x-frame-options", "SAMEORIGIN") := by
    decide +kernel
  have hother : ("X-Frame-Options", "DENY") ∈ twiceNamed.responseHeaders.entries := by
    decide +kernel
  refine ⟨own, t, hown, ht, ?_, x, hx, fun h => ?_⟩
  · exact (hgreatest _ _ hlast _ hother (by decide +kernel)).resolve_left (by decide)
  · exact (last_rule_of_a_header_counts.1 _ _ hread).lastCounts "X-Frame-Options" _ _
      (by decide +kernel) hlast h

end RouteTable

end AuthGateway
