import AuthGateway.Proofs.Configuration
import AuthGateway.Proofs.Payloads
import AuthGateway.Proofs.Runs

/-!
What a logout is worth. The ledger revokes the id of the session until the
cookie that was presented would have expired, so that the id is barred for good
unless another cookie of the same session lives longer; renewals make such
cookies.
-/
namespace AuthGateway

open Http (Request)
open Revocation (Sizing)
open Revocation.Ledger (standsAt expiry_of_remaining later_of_not_stands)

namespace Gateway

def IsPresentable (g : Gateway) (q : Payload) : Prop :=
  ∃ r, g.authenticator.Presents r q

/-- What bars an id for good: its entry stands up to a time, unless that has passed,
and no cookie of the id lives for more than a second longer. -/
structure IsBarred (g : Gateway) (h : History) (id : String) (stop : Int) : Prop where
  sound : h.store.IsSound
  stands : (∃ t, h.store.entry? id = some t ∧ stop ≤ t.toInt) ∨ stop < h.clock.toInt
  expiring : ∀ q ∈ h.made, g.IsPresentable q → q.id = id → q.expiresAt.toInt ≤ stop + 1
  known : ∃ q ∈ h.made, q.id = id

variable {g : Gateway} {h : History} {id : String} {stop : Int} {now : Int64} {r : Request}
  {body : List UInt8}

/-- Nobody is taken for a session of a barred id: up to the stop the entry stands
against it, and from then on all cookies have expired. -/
theorem IsBarred.not_live (hb : g.IsBarred h id stop) (hclock : h.clock ≤ now)
    (hr : g.IsHonest h r) {s : Session}
    (hs : g.authenticator.IsLive (g.authenticator.lookupIn h.store now) now r s) :
    s.payload.id ≠ id := by
  intro hid
  have hexpires := hb.expiring s.payload (hr _ hs.presented) ⟨r, hs.presented⟩ hid
  have hunexpired := Int64.lt_iff_toInt_lt.1 hs.unexpired
  have hstands := (Authenticator.standing_iff_of_sound hb.sound _ now _).1 hs.standing
  rw [hid] at hstands
  rcases hb.stands with ⟨t, ht, hstop⟩ | hpast
  · have hle : now ≤ t := Int64.le_iff_toInt_le.2 (by omega)
    simp [standsAt, ht, hle] at hstands
  · have hle := Int64.le_iff_toInt_le.1 hclock
    omega

/-- The entry of a barred id goes only once its time has passed. -/
theorem IsBarred.stands_after (hb : g.IsBarred h id stop) {e : Event} (hp : g.Permits h now e) :
    (∃ t, (g.after h now e).store.entry? id = some t ∧ stop ≤ t.toInt) ∨
      stop < (g.after h now e).clock.toInt := by
  have hclock := Int64.le_iff_toInt_le.1 hp.inOrder
  rw [clock_after hb.sound]
  rcases hb.stands with ⟨t, ht, hstop⟩ | hpast
  · rcases entry?_after hb.sound now e id with hsame | hdropped | ⟨r, body, s, rfl, hlive, hid⟩
    · exact .inl ⟨t, hsame.trans ht, hstop⟩
    · by_cases hle : now ≤ t
      · refine .inl ⟨t, ?_, hstop⟩
        rw [hdropped, ht, Option.filter_some, if_pos (decide_eq_true hle)]
      · refine .inr ?_
        rw [Int64.le_iff_toInt_le] at hle
        omega
    · exact absurd hid (hb.not_live hp.inOrder hp.accepted hlive)
  · exact .inr (by omega)

/-- Whatever happens next leaves a barred id barred. -/
theorem IsBarred.after (hb : g.IsBarred h id stop) {e : Event} (hp : g.Permits h now e) :
    g.IsBarred (g.after h now e) id stop where
  sound := sound_after hb.sound now e
  stands := hb.stands_after hp
  expiring := by
    intro q hq hpresentable hid
    rcases mem_made_after hb.sound hq with
      hold | ⟨fresh, p, provider, user, rfl, hfresh⟩ | ⟨nonce, p, r, body, s, rfl, hlive, hsame⟩
    · exact hb.expiring q hold hpresentable hid
    · obtain ⟨known, hknown, hknownId⟩ := hb.known
      have hnew := hp.accepted known hknown
      rw [hknownId, ← hid, hfresh] at hnew
      exact absurd rfl hnew
    · have hother := hb.not_live hp.inOrder hp.accepted hlive
      rw [← hsame] at hother
      exact absurd hid hother
  known := by
    obtain ⟨q, hq, hid⟩ := hb.known
    exact ⟨q, made_subset_after hb.sound now e q hq, hid⟩

theorem IsBarred.of_reaches {h' : History} (hb : g.IsBarred h id stop) (hr : g.Reaches h h') :
    g.IsBarred h' id stop := by
  induction hr with
  | refl => exact hb
  | step _ hp ih => exact ih.after hp

/-- Under one of some policies, a request is taken for a session of an id at some
time from a history on. -/
def Readmits (g : Gateway) (h : History) (id : String) (policies : Policy → Prop) : Prop :=
  ∃ h', g.Reaches h h' ∧ ∃ now nonce p r body s, policies p ∧
    g.Permits h' now (.authenticate nonce p r body) ∧
    (g.authenticator.authenticate h'.store nonce now p r body).outcome = .authenticated s ∧
    s.payload.id = id

theorem not_readmits_of_barred (hb : g.IsBarred h id stop) (policies : Policy → Prop) :
    ¬ g.Readmits h id policies := by
  rintro ⟨h', hreach, now, nonce, p, r, body, s, -, hp, houtcome, hid⟩
  have table := Authenticator.decide_follows_table g.authenticator
    (g.authenticator.lookupIn h'.store now) nonce now p r body
  obtain ⟨s', hlive, hpayload, -⟩ := table.identity s houtcome
  refine (hb.of_reaches hreach).not_live hp.inOrder hp.accepted hlive ?_
  rw [← hid, hpayload]

/-- A cookie of the session of a payload outlives it by more than a second. -/
def IsOutlived (g : Gateway) (h : History) (p : Payload) : Prop :=
  ∃ q ∈ h.made, g.IsPresentable q ∧ q.id = p.id ∧ p.expiresAt.toInt + 1 < q.expiresAt.toInt

/-- A logout that may happen next, and that revokes the session of its request. -/
structure LogsOut (g : Gateway) (h : History) (now : Int64) (r : Request) (body : List UInt8)
    (s : Session) : Prop where
  permitted : g.Permits h now (.logout r body)
  live : g.authenticator.IsLive (g.authenticator.lookupIn h.store now) now r s
  revoked : ∃ cookies, (g.authenticator.logout h.store now r body).2 = .loggedOut true cookies

/-- After a logout, the id of the session is revoked until the presented cookie
expires. -/
theorem entry?_after_logout (hs : h.store.IsSound) {s : Session}
    (hl : g.LogsOut h now r body s) :
    (g.after h now (.logout r body)).store.entry? s.payload.id = some s.payload.expiresAt := by
  rcases Authenticator.logout_of_sound hs g.authenticator now r body with
    ⟨s', store', hlive', hlogout, -, hentry⟩ | ⟨-, hnot⟩
  · obtain rfl := hlive'.unique hl.live
    have hunexpired := hl.live.unexpired
    have hstands := (Authenticator.standing_iff_of_sound hs _ now _).1 hl.live.standing
    have hle : now ≤ s'.payload.expiresAt := by
      rw [Int64.lt_iff_toInt_lt] at hunexpired
      exact Int64.le_iff_toInt_le.2 (by omega)
    rw [after_logout, hlogout]
    refine (hentry _).trans ?_
    rw [if_pos rfl, hl.live.remaining, expiry_of_remaining hl.permitted.nonneg hunexpired,
      later_of_not_stands hstands hle]
  · obtain ⟨cookies, hout⟩ := hl.revoked
    exact absurd hout (hnot cookies)

theorem barred_after_logout (hs : h.store.IsSound) {s : Session}
    (hl : g.LogsOut h now r body s) (hno : ¬ g.IsOutlived h s.payload) :
    g.IsBarred (g.after h now (.logout r body)) s.payload.id s.payload.expiresAt.toInt where
  sound := sound_after hs now _
  stands := .inl ⟨_, entry?_after_logout hs hl, Int.le_refl _⟩
  expiring := by
    intro q hq hpresentable hid
    refine Int.not_lt.1 fun hlt => hno ⟨q, hq, hpresentable, hid, hlt⟩
  known := ⟨s.payload, hl.permitted.accepted _ hl.live.presented, rfl⟩

/-- Once the revocation is over, a cookie that outlives it is as good as ever. -/
theorem readmits_of_outlived (hg : g.sessionPolicy.guard = .none) (hs : h.store.IsSound)
    {s : Session} (hl : g.LogsOut h now r body s) (houtlived : g.IsOutlived h s.payload)
    {policies : Policy → Prop} (hpolicy : policies g.sessionPolicy) :
    g.Readmits (g.after h now (.logout r body)) s.payload.id policies := by
  obtain ⟨q, hq, ⟨r', hr'⟩, hid, hlt⟩ := houtlived
  let h' := g.after h now (.logout r body)
  -- The entry of the id still stands in the second the presented cookie expires in.
  let next := Time.after s.payload.expiresAt 1
  have hnext : next.toInt = s.payload.expiresAt.toInt + 1 := by
    have hmin : Int64.minValue.toInt = -2 ^ 63 := rfl
    have hmax : Int64.maxValue.toInt = 2 ^ 63 - 1 := rfl
    have hone : (1 : Int64).toInt = 1 := rfl
    have hlow := s.payload.expiresAt.le_toInt
    have hhigh := q.expiresAt.toInt_lt
    rw [Time.toInt_after, hone]
    omega
  have hunexpired := Int64.lt_iff_toInt_lt.1 hl.live.unexpired
  have hlt' : next < q.expiresAt := Int64.lt_iff_toInt_lt.2 (by omega)
  have hnow := Int64.le_iff_toInt_le.1 hl.permitted.nonneg
  have hpermits : g.Permits h' next (.authenticate ⟨List.replicate 12 0, rfl⟩ g.sessionPolicy r' []) := by
    refine ⟨Int64.le_iff_toInt_le.2 (by omega), ?_, ?_⟩
    · rw [clock_after hs]
      exact Int64.le_iff_toInt_le.2 (by omega)
    · intro q' hq'
      rw [hq'.unique hr']
      exact hq
  have hstands : standsAt next (h'.store.entry? q.id) = false := by
    rw [hid, entry?_after_logout hs hl]
    simp only [standsAt, decide_eq_false_iff_not, Int64.le_iff_toInt_le]
    omega
  have hlive' : g.authenticator.IsLive (g.authenticator.lookupIn h'.store next) next r'
      ⟨q, Time.span next q.expiresAt, (Time.span_pos_iff _ _).2 hlt'⟩ :=
    ⟨hr', hlt', rfl, (Authenticator.standing_iff_of_sound (sound_after hs now _) _ _ _).2 hstands⟩
  have table := Authenticator.decide_follows_table g.authenticator
    (g.authenticator.lookupIn h'.store next) ⟨List.replicate 12 0, rfl⟩ next g.sessionPolicy r' []
  obtain ⟨s', houtcome⟩ := table.authenticated.2 ⟨_, hlive', .inr (by rw [hg]; rfl)⟩
  obtain ⟨t, ht, hpayload, -⟩ := table.identity s' houtcome
  refine ⟨h', .refl, next, _, g.sessionPolicy, r', [], s', hpolicy, hpermits, houtcome, ?_⟩
  rw [hpayload, ht.unique hlive', ← hid]

/-- After a logout that revoked a session, and however the run goes on, a request
is taken for the session again exactly if another cookie of it outlives the one
that was presented by more than a second. No policy makes a difference, as long
as the one of the endpoint that tells of the session is among them. -/
theorem readmits_after_logout_iff {settings : Settings} {key : Key}
    (hg : Gateway.ofKey settings key = .ok g) {sizing : Sizing} {start : Int64}
    {entries : Dictionary Int64} {made : List Payload}
    (hreach : g.Reaches (.opened sizing start entries made) h) {s : Session}
    (hl : g.LogsOut h now r body s) {policies : Policy → Prop}
    (hpolicy : policies g.sessionPolicy) :
    g.Readmits (g.after h now (.logout r body)) s.payload.id policies ↔
      g.IsOutlived h s.payload := by
  have hs : h.store.IsSound := sound_of_reaches (isSound_opened sizing start entries made) hreach
  constructor
  · intro hreadmits
    refine Classical.byContradiction fun hno => ?_
    exact not_readmits_of_barred (barred_after_logout hs hl hno) policies hreadmits
  · intro houtlived
    have hguard : g.sessionPolicy.guard = .none := by rw [(ofKey_eq_ok hg).1]; rfl
    exact readmits_of_outlived hguard hs hl houtlived hpolicy

/-- Whoever has a session renewed and then logs out with the old cookie is left
with a new one that outlives it. -/
theorem outlived_of_renewal (hs : h.store.IsSound) {p : Policy} {s : Session}
    (hp : g.Permits h now (.logout r body))
    (hlive : g.authenticator.IsLive (g.authenticator.lookupIn h.store now) now r s)
    (hpass : Authenticator.PassesGuard p r body s) (hdue : Authenticator.IsDue p s)
    (hguard : g.authenticator.logoutGuard.blocks (Authenticator.context r body) s = false)
    (hlater : s.payload.expiresAt.toInt + 1 < (Time.after now p.lifetime).toInt)
    (hrenewed : g.IsPresentable (s.renewed (Time.after now p.lifetime))) :
    ∃ h', g.Reaches h h' ∧ g.LogsOut h' now r body s ∧ g.IsOutlived h' s.payload := by
  have hafter := after_authenticate_of_due hlive hpass hdue ⟨List.replicate 12 0, rfl⟩
  obtain ⟨store', hlogout, -⟩ := Authenticator.logout_of_live hs hlive hguard
  have hreach := Reaches.step .refl (e := .authenticate ⟨List.replicate 12 0, rfl⟩ p r body)
    ⟨hp.nonneg, hp.inOrder, hp.accepted⟩
  rw [hafter] at hreach
  refine ⟨_, hreach, ⟨⟨hp.nonneg, Int64.le_refl now, fun q hq => ?_⟩, hlive, ?_⟩, ?_⟩
  · exact List.mem_cons_of_mem _ (hp.accepted q hq)
  · exact ⟨_, congrArg Prod.snd hlogout⟩
  · exact ⟨_, List.mem_cons_self, hrenewed, rfl, hlater⟩

def plainSettings : Settings :=
  { application := { baseUrl := "http://[::1]" }, logout := { csrfProtection := "none" } }

def plainKey : Key := ⟨List.replicate 32 0, rfl⟩

def plainPolicy : Policy :=
  { Policy.ofSession .none plainSettings.session with allowAnonymous := true }

def plainFresh : Authenticator.Fresh :=
  ⟨⟨List.replicate 16 0, rfl⟩, ⟨List.replicate 24 0, rfl⟩, ⟨List.replicate 12 0, rfl⟩⟩

def plainPayload (stop : Int64) : Payload :=
  ⟨Secret.sessionId plainFresh.id, "local", stop, ⟨"alice", .empty⟩,
    Secret.csrfToken plainFresh.csrfToken⟩

def plainSession : Session := ⟨plainPayload 3600, 200, by decide⟩

theorem exists_plain_gateway : ∃ g, Gateway.ofKey plainSettings plainKey = .ok g := by
  have hok : (Gateway.ofKey plainSettings plainKey).isOk = true := by
    decide +kernel
  cases hg : Gateway.ofKey plainSettings plainKey with
  | error e =>
      rw [hg] at hok
      cases hok
  | ok g => exact ⟨g, rfl⟩

theorem plain_logoutGuard (hg : Gateway.ofKey plainSettings plainKey = .ok g) :
    g.authenticator.logoutGuard = .none := by
  obtain ⟨-, -, own, strategy, -, hstrategy, hguard⟩ := ofKey_eq_ok hg
  have hnone : Csrf.Strategy.resolve "none" = .ok .none := by rfl
  have hsame : Csrf.Strategy.none = strategy := Except.ok.inj (hnone.symm.trans hstrategy)
  rw [hguard, ← hsame]
  rfl

def plainIssued : History :=
  { History.opened ⟨1, 0.5⟩ 0 .empty [] with made := [plainPayload 3600] }

theorem reaches_plainIssued (g : Gateway) :
    g.Reaches (.opened ⟨1, 0.5⟩ 0 .empty []) plainIssued := by
  have hissued : g.after (.opened ⟨1, 0.5⟩ 0 .empty []) 0
      (.issue plainFresh plainPolicy "local" ⟨"alice", .empty⟩) = plainIssued :=
    g.after_issue_of_lt _ (by rfl) (by decide)
  rw [← hissued]
  exact .step .refl ⟨by decide, by decide, fun q hq => nomatch hq⟩

/-- An hour's session is renewed by its first cookie, which then logs it out. -/
theorem outlived_run (hg : Gateway.ofKey plainSettings plainKey = .ok g) :
    ∃ h now r s, g.Reaches (.opened ⟨1, 0.5⟩ 0 .empty []) h ∧ g.LogsOut h now r [] s ∧
      g.IsOutlived h s.payload := by
  have hs : plainIssued.store.IsSound := isSound_opened _ _ _ _
  have hfirst : g.authenticator.Presents
      (g.authenticator.issuer.bearer plainFresh.nonce (plainPayload 3600)) (plainPayload 3600) :=
    Authenticator.presents_iff.2 (CookieIssuer.readPayload_bearer (plainPayload 3600).read_render)
  have hsecond : g.IsPresentable (plainPayload 7000) :=
    ⟨g.authenticator.issuer.bearer plainFresh.nonce (plainPayload 7000),
      Authenticator.presents_iff.2 (CookieIssuer.readPayload_bearer (plainPayload 7000).read_render)⟩
  have hlive : g.authenticator.IsLive (g.authenticator.lookupIn plainIssued.store 3400) 3400
      (g.authenticator.issuer.bearer plainFresh.nonce (plainPayload 3600)) plainSession :=
    ⟨hfirst, by decide, by decide, (Authenticator.standing_iff_of_sound hs _ _ _).2 rfl⟩
  have hp : g.Permits plainIssued 3400
      (.logout (g.authenticator.issuer.bearer plainFresh.nonce (plainPayload 3600)) []) := by
    refine ⟨by decide, by decide, fun q hq => ?_⟩
    rw [hq.unique hfirst]
    exact List.mem_cons_self
  obtain ⟨h, hreach, hl, houtlived⟩ := outlived_of_renewal hs (p := plainPolicy) hp hlive
    (.inr rfl) ⟨by decide, by decide⟩ (by rw [plain_logoutGuard hg]; rfl) (by decide) hsecond
  exact ⟨h, _, _, _, (reaches_plainIssued g).trans hreach, hl, houtlived⟩

/-- A session that was logged out is let in again by its second cookie. -/
theorem readmits_after_renewed_logout :
    ∃ g h now r s, Gateway.ofKey plainSettings plainKey = .ok g ∧
      g.Reaches (.opened ⟨1, 0.5⟩ 0 .empty []) h ∧ g.LogsOut h now r [] s ∧
        g.Readmits (g.after h now (.logout r [])) s.payload.id (g.sessionPolicy = ·) := by
  obtain ⟨g, hg⟩ := exists_plain_gateway
  obtain ⟨h, now, r, s, hreach, hl, houtlived⟩ := outlived_run hg
  exact ⟨g, h, now, r, s, hg, hreach, hl,
    (readmits_after_logout_iff hg hreach hl rfl).2 houtlived⟩

/-- A logout is not for good, even where no cookie is around at the start. -/
theorem logout_is_not_for_good :
    ¬ ∀ (settings : Settings) (key : Key) (g : Gateway) (sizing : Sizing) (h : History)
        (now : Int64) (r : Request) (body : List UInt8) (s : Session),
      Gateway.ofKey settings key = .ok g → g.Reaches (.opened sizing 0 .empty []) h →
        g.LogsOut h now r body s →
          ¬ g.Readmits (g.after h now (.logout r body)) s.payload.id fun _ => True := by
  intro hfinal
  obtain ⟨g, hg⟩ := exists_plain_gateway
  obtain ⟨h, now, r, s, hreach, hl, houtlived⟩ := outlived_run hg
  have hs : h.store.IsSound := sound_of_reaches (isSound_opened _ _ _ _) hreach
  have hguard : g.sessionPolicy.guard = .none := by rw [(ofKey_eq_ok hg).1]; rfl
  exact hfinal _ _ g _ h now r [] s hg hreach hl
    (readmits_of_outlived hguard hs hl houtlived trivial)

end Gateway

end AuthGateway
