import AuthGateway.Proofs.DoubleSubmit
import AuthGateway.Proofs.Payloads
import AuthGateway.Proofs.Runs

/-!
From a login to the requests that follow. The payload of a new session says who
has logged in and how, under an id and a token that are random. The two cookies
hold the payload and the token in characters that no reader of cookies, headers
or forms takes for anything else. A client that sends them back has the session
for as long as the policy of the login says, and gets past every guard.
-/
namespace AuthGateway

open Http (Request Headers SetCookie)
open Revocation (Lookup)

namespace Payload

/-- Two payloads of one session, which may end at different times. -/
structure SameSession (p q : Payload) : Prop where
  id : p.id = q.id
  provider : p.provider = q.provider
  user : p.user = q.user
  csrfToken : p.csrfToken = q.csrfToken

theorem SameSession.trans {p q o : Payload} (h : p.SameSession q) (h' : q.SameSession o) :
    p.SameSession o :=
  ⟨h.id.trans h'.id, h.provider.trans h'.provider, h.user.trans h'.user,
    h.csrfToken.trans h'.csrfToken⟩

theorem sameSession_of_eq {p q : Payload} {stop : Int64} (h : p = { q with expiresAt := stop }) :
    p.SameSession q := by
  subst h
  exact ⟨rfl, rfl, rfl, rfl⟩

end Payload

namespace Policy

theorem lifetime_toInt (p : Policy) :
    p.lifetime.toInt = min (p.duration.toNat : Int) Int64.maxValue.toInt :=
  Time.ofSeconds_toInt p.duration

theorem after_lifetime_toInt (p : Policy) (t : Int64) :
    (Time.after t p.lifetime).toInt =
      min (t.toInt + min (p.duration.toNat : Int) Int64.maxValue.toInt) Int64.maxValue.toInt := by
  have hmin : Int64.minValue.toInt = -2 ^ 63 := rfl
  have hmax : Int64.maxValue.toInt = 2 ^ 63 - 1 := rfl
  have ht := t.le_toInt
  rw [Time.toInt_after, lifetime_toInt]
  omega

end Policy

namespace Hex

theorem lowerDigit_ne_hyphen {n : Nat} (h : n < 16) : lowerDigit n ≠ '-' := by
  have all : ∀ n < 16, lowerDigit n ≠ '-' := by decide
  exact all n h

theorem hyphen_not_mem_encode (bytes : List UInt8) : '-' ∉ (encode bytes).toList := by
  rw [encode, String.toList_ofList, List.mem_flatMap]
  rintro ⟨b, -, hb⟩
  have hlt := b.toNat_lt
  simp only [List.mem_cons, List.not_mem_nil, or_false] at hb
  rcases hb with hhigh | hlow
  · exact lowerDigit_ne_hyphen (by omega) hhigh.symm
  · exact lowerDigit_ne_hyphen (by omega) hlow.symm

theorem length_encode (bytes : List UInt8) :
    (encode bytes).toList.length = 2 * bytes.length := by
  rw [encode, String.toList_ofList, List.length_flatMap]
  simp [List.map_const', Nat.mul_comm]

end Hex

namespace Secret

/-- A random UUID of version 4: five groups of digits in lower case, and all bits random but those
of the version and the variant. -/
structure IsRandomUuid (random : Octets 16) (id : String) : Prop where
  groups : (Split.pieces '-' id.toList).map List.length = [8, 4, 4, 4, 12]
  digits : ∃ bytes : List UInt8,
    (Split.pieces '-' id.toList).flatten =
        bytes.flatMap (fun b => [Hex.lowerDigit (b.toNat / 16), Hex.lowerDigit (b.toNat % 16)]) ∧
      ∀ i : Nat, bytes[i]?.map UInt8.toNat = random.toList[i]?.map fun b =>
        if i = 6 then 0x40 + b.toNat % 16 else if i = 8 then 0x80 + b.toNat % 64 else b.toNat

/-- A bit above the low ones is added to them when it is set. -/
theorem mark_low_bits {k i : Nat} (h : k ≤ i) (n : Nat) :
    (n &&& (2 ^ k - 1)) ||| 2 ^ i = 2 ^ i + n % 2 ^ k := by
  have hlt : n % 2 ^ k < 2 ^ i :=
    Nat.lt_of_lt_of_le (Nat.mod_lt _ (Nat.two_pow_pos k)) (Nat.pow_le_pow_right (by decide) h)
  have hor := Nat.two_pow_add_eq_or_of_lt hlt 1
  rw [Nat.mul_one] at hor
  rw [Nat.and_two_pow_sub_one_eq_mod, Nat.or_comm, hor]

theorem toNat_uuidBytes (random : Octets 16) (i : Nat) :
    (uuidBytes random)[i]?.map UInt8.toNat = random.toList[i]?.map fun b =>
      if i = 6 then 0x40 + b.toNat % 16 else if i = 8 then 0x80 + b.toNat % 64 else b.toNat := by
  rw [uuidBytes, List.getElem?_map, List.getElem?_zipIdx, Option.map_map, Option.map_map]
  congr 1
  funext b
  simp only [Function.comp_apply, Nat.zero_add]
  split
  · exact mark_low_bits (k := 4) (i := 6) (by decide) b.toNat
  · split
    · exact mark_low_bits (k := 6) (i := 7) (by decide) b.toNat
    · rfl

def uuidGroups (digits : List Char) : List (List Char) :=
  [digits.take 8, (digits.drop 8).take 4, (digits.drop 12).take 4, (digits.drop 16).take 4,
    digits.drop 20]

theorem flatten_uuidGroups (digits : List Char) : (uuidGroups digits).flatten = digits := by
  have hdrop (n : Nat) : (digits.drop n).take 4 ++ digits.drop (n + 4) = digits.drop n := by
    rw [← List.drop_drop, List.take_append_drop]
  simp only [uuidGroups, List.flatten_cons, List.flatten_nil, List.append_nil]
  rw [hdrop 16, hdrop 12, hdrop 8, List.take_append_drop]

theorem pieces_sessionId (random : Octets 16) :
    Split.pieces '-' (sessionId random).toList =
      uuidGroups (Hex.encode (uuidBytes random)).toList := by
  have hjoined : (sessionId random).toList =
      Split.join ['-'] (uuidGroups (Hex.encode (uuidBytes random)).toList) := by
    rw [sessionId, String.toList_ofList]
    simp [uuidGroups, Split.join, List.intercalate]
  have hfree : ∀ p ∈ uuidGroups (Hex.encode (uuidBytes random)).toList, '-' ∉ p := by
    intro p hp hm
    refine Hex.hyphen_not_mem_encode (uuidBytes random) ?_
    rw [← flatten_uuidGroups (Hex.encode (uuidBytes random)).toList]
    exact List.mem_flatten_of_mem hp hm
  rw [hjoined]
  exact Split.pieces_join (by simp [uuidGroups]) hfree

/-- A session id is the UUID that its random bytes make. -/
theorem isRandomUuid_sessionId (random : Octets 16) : IsRandomUuid random (sessionId random) := by
  have hlength : (Hex.encode (uuidBytes random)).toList.length = 32 := by
    rw [Hex.length_encode, uuidBytes, List.length_map, List.length_zipIdx, random.length_eq]
  refine ⟨?_, uuidBytes random, ?_, toNat_uuidBytes random⟩
  · simp [pieces_sessionId, uuidGroups, hlength]
  · rw [pieces_sessionId, flatten_uuidGroups, Hex.encode, String.toList_ofList]

end Secret

namespace CookieIssuer

/-- One cookie holds a payload, and the other the CSRF token of its session. -/
structure Grants (i : CookieIssuer) (session csrf : SetCookie) (q : Payload) : Prop where
  names : session.name = "session" ∧ csrf.name = "csrf"
  opens : Token.openJson i.key session.value Payload.ofJson? = .ok q
  token : csrf.value = q.csrfToken

theorem grants (i : CookieIssuer) (nonce : Octets 12) (q : Payload) (maxAge : Int64) :
    i.Grants (i.session nonce q maxAge) (i.csrf q.csrfToken maxAge) q :=
  ⟨⟨rfl, rfl⟩, Token.openJson_sealJson q.read_render i.key nonce, rfl⟩

end CookieIssuer

namespace Authenticator

open Csrf (Guard Echoes SaysInHeader)
open Csrf.Context (tokenHeader)

/-- A request brings the CSRF token of its session in the way that a guard asks
for: double submission in one of its places, and the other in the cookie, if no
origin is claimed. -/
inductive BringsBack (r : Request) (body : List UInt8) (token : String) : Guard → Prop
  | unguarded : BringsBack r body token .none
  | echoed (h : Echoes r body token) : BringsBack r body token .doubleSubmit
  | kept {own : Url} (h : Http.requestCookie? r.headers "csrf" = some token)
      (horigin : r.headers.first? .origin = none) (hreferer : r.headers.first? .referer = none) :
      BringsBack r body token (.sameSiteStrict own)

/-- Cookies are read as they were made, wherever a client sends them back as
they are. -/
structure ComeBack (session csrf : SetCookie) : Prop where
  cookies : ∀ h : Headers, ∀ c ∈ [session, csrf], h.Sends c.name c.value →
    Http.requestCookie? h c.name = some c.value
  header : ∀ r : Request, r.headers.first? ⟨"x-csrf-token"⟩ = some ⟨Utf8.encode csrf.value⟩ →
    SaysInHeader r csrf.value
  form : ∀ bytes, Form.Sends bytes "CSRFToken" csrf.value →
    Form.IsFirst "CSRFToken" (Form.pairs bytes) csrf.value

structure Honours (a : Authenticator) (p : Policy) (t : Int64) (s : Session)
    (session csrf : SetCookie) : Prop where
  granted : a.issuer.Grants session csrf s.payload
  comeBack : ComeBack session csrf
  guards : ∀ (r : Request) (body : List UInt8) (g : Guard) (s' : Session),
    BringsBack r body csrf.value g → s'.payload.SameSession s.payload →
      g.blocks (context r body) s' = false
  /-- Whoever sends the session cookie is let in exactly as long as the policy of
  the login said. -/
  lasts : ∀ (lookup : String → Lookup) (nonce : Octets 12) (now : Int64) (p' : Policy)
    (r : Request) (body : List UInt8),
    Http.requestCookie? r.headers "session" = some session.value →
    lookup s.payload.id = .notRevoked →
    r.method ∈ p'.safeMethods ∨ BringsBack r body csrf.value p'.guard →
      ((∃ s', (a.decide lookup nonce now p' r body).outcome = .authenticated s') ↔
        now.toInt < min (t.toInt + min (p.duration.toNat : Int) Int64.maxValue.toInt)
          Int64.maxValue.toInt) ∧
      ∀ s', (a.decide lookup nonce now p' r body).outcome = .authenticated s' →
        s'.payload.SameSession s.payload

/-- A new payload names the user and the provider of the login, and ends when the policy says.
Its id is a random UUID, and from its token all the random bytes can be read. -/
structure Records (fresh : Fresh) (t : Int64) (p : Policy) (provider : String) (user : User)
    (q : Payload) : Prop where
  id : Secret.IsRandomUuid fresh.id q.id
  provider : q.provider = provider
  user : q.user = user
  token : Base64.decodePlain? Base64.urlSafe q.csrfToken.toList = some fresh.csrfToken.toList
  expiry : q.expiresAt.toInt =
    min (t.toInt + min (p.duration.toNat : Int) Int64.maxValue.toInt) Int64.maxValue.toInt

variable {a : Authenticator} {r : Request} {body : List UInt8}

/-- Whoever brings the token back in the way of the guard is let through. -/
theorem BringsBack.passes {token : String} {g : Guard} {s : Session}
    (h : BringsBack r body token g) (htoken : s.payload.csrfToken = token) :
    g.blocks (context r body) s = false := by
  subst htoken
  cases h with
  | unguarded => rfl
  | echoed h => exact (Csrf.passes_iff_echoes r body s).2 h
  | kept hcookie horigin hreferer =>
      have hsame : (context r body).cookieToken = some s.payload.csrfToken ∧
          (context r body).origin = none ∧ (context r body).referer = none := by
        rw [← hcookie, context, Csrf.Context.withFormBody]
        split <;>
          simp [Csrf.Context.ofRequest, CookieIssuer.csrfName, Headers.text?, horigin, hreferer]
      have hforeign : ∀ own, Csrf.isForeign none none own = false := fun _ => rfl
      rw [Guard.blocks, Guard.keepsSite, hsame.1, hsame.2.1, hsame.2.2, hforeign]
      simp [Secret.equal_iff]

theorem saysInHeader_of_first? {token : String}
    (hplain : ∀ c ∈ token.toList, Token.isTokenChar c = true)
    (h : r.headers.first? tokenHeader = some ⟨Utf8.encode token⟩) : SaysInHeader r token := by
  refine ⟨_, h, ?_, rfl⟩
  intro b hb
  obtain ⟨c, hc, hbc⟩ := List.mem_flatMap.1 hb
  have hrange := Token.toNat_of_isTokenChar (hplain c hc)
  rw [Utf8.encodeChar_of_ascii (by omega), List.mem_singleton] at hbc
  subst hbc
  rw [Http.isVisibleByte_iff, UInt8.toNat_ofNat']
  omega

/-- The two cookies of a new session are made of characters that come back as they are. -/
theorem comeBack_newPayload {fresh : Fresh} {t : Int64} {p : Policy} {provider : String} {user : User} :
    ComeBack
      (a.issuer.session fresh.nonce (newPayload fresh t p provider user) p.lifetime)
      (a.issuer.csrf (newPayload fresh t p provider user).csrfToken p.lifetime) where
  cookies := by
    intro h c hc hsends
    have hcsrf : ∀ c ∈ (Secret.csrfToken fresh.csrfToken).toList, Token.isTokenChar c = true :=
      fun _ => Secret.isTokenChar_of_mem_csrfToken
    simp only [List.mem_cons, List.not_mem_nil, or_false] at hc
    rcases hc with rfl | rfl
    · exact Http.requestCookie?_of_sends (by decide)
        (fun _ => CookieIssuer.isTokenChar_of_mem_sessionName)
        (fun _ => Token.isTokenChar_of_mem_sealJson) hsends
    · exact Http.requestCookie?_of_sends (by decide)
        (fun _ => CookieIssuer.isTokenChar_of_mem_csrfName) hcsrf hsends
  header := by
    intro r h
    exact saysInHeader_of_first? (fun _ => Secret.isTokenChar_of_mem_csrfToken) h
  form := by
    intro bytes h
    refine Form.isFirst_of_sends ⟨by decide, by decide⟩ ⟨?_, ?_⟩ (by decide) h
    · intro hm
      exact absurd (Secret.isTokenChar_of_mem_csrfToken hm) (by decide)
    · intro hm
      exact absurd (Secret.isTokenChar_of_mem_csrfToken hm) (by decide)

section

variable {fresh : Fresh} {t : Int64} {p : Policy} {provider : String} {user : User} {s : Session}
  {cookies : List SetCookie}

theorem records_newPayload :
    Records fresh t p provider user (newPayload fresh t p provider user) where
  id := Secret.isRandomUuid_sessionId fresh.id
  provider := rfl
  user := rfl
  token := by
    rw [newPayload, Secret.csrfToken, Secret.nonce, Base64.encodeUrl, String.toList_ofList]
    exact Base64.decodePlain?_encodeWith Base64.urlSafe_isProper _
  expiry := p.after_lifetime_toInt t

/-- What is issued is the session of a new payload, and its two cookies. -/
theorem issue_eq_ok_iff :
    a.issue fresh t p provider user = .ok (s, cookies) ↔
      Session.ofPayload? (newPayload fresh t p provider user) t = some s ∧
        cookies = [
          a.issuer.session fresh.nonce (newPayload fresh t p provider user) p.lifetime,
          a.issuer.csrf (newPayload fresh t p provider user).csrfToken p.lifetime] := by
  rw [issue_eq]
  cases Session.ofPayload? (newPayload fresh t p provider user) t with
  | none => simp
  | some s' =>
      simp only [Except.ok.injEq, Prod.mk.injEq, Option.some.injEq]
      constructor
      · rintro ⟨hs, hcookies⟩
        exact ⟨hs, hcookies.symm⟩
      · rintro ⟨hs, hcookies⟩
        exact ⟨hs, hcookies.symm⟩

/-- A session is issued exactly if it lasts a second at least, before the end of the range. -/
theorem exists_issue_iff :
    (∃ issued, a.issue fresh t p provider user = .ok issued) ↔
      1 ≤ p.duration.toNat ∧ t < Int64.maxValue := by
  have hmax : Int64.maxValue.toInt = 2 ^ 63 - 1 := rfl
  have hends : t < Time.after t p.lifetime ↔ 1 ≤ p.duration.toNat ∧ t < Int64.maxValue := by
    rw [Int64.lt_iff_toInt_lt, Int64.lt_iff_toInt_lt, p.after_lifetime_toInt]
    omega
  rw [← hends]
  constructor
  · rintro ⟨⟨s, cookies⟩, hissue⟩
    exact (Session.ofPayload?_eq_some_iff.1 (issue_eq_ok_iff.1 hissue).1).1
  · intro hlt
    obtain ⟨s, hs⟩ := Session.exists_ofPayload? (p := newPayload fresh t p provider user) hlt
    exact ⟨_, issue_eq_ok_iff.2 ⟨hs, rfl⟩⟩

end

theorem sameSession_of_decide {lookup : String → Lookup} {nonce : Octets 12} {now : Int64}
    {p : Policy} {q : Payload} (hq : a.Presents r q) {s : Session}
    (h : (a.decide lookup nonce now p r body).outcome = .authenticated s) :
    s.payload.SameSession q := by
  obtain ⟨s', hs', hpayload, -⟩ :=
    (decide_follows_table a lookup nonce now p r body).identity s h
  rw [← hs'.presented.unique hq]
  exact Payload.sameSession_of_eq hpayload

/-- A session that is issued is that of the user who has logged in, and it lasts, for whoever
brings its cookies back, exactly as long as the policy says. An issue fails only if that is
over at once. -/
theorem issued_session_lasts (a : Authenticator) (fresh : Fresh) (t : Int64) (p : Policy)
    (provider : String) (user : User) :
    ((∃ issued, a.issue fresh t p provider user = .ok issued) ↔
        1 ≤ p.duration.toNat ∧ t < Int64.maxValue) ∧
      ∀ s cookies, a.issue fresh t p provider user = .ok (s, cookies) →
        Records fresh t p provider user s.payload ∧
          ∃ session csrf, cookies = [session, csrf] ∧ a.Honours p t s session csrf := by
  refine ⟨exists_issue_iff, ?_⟩
  intro s cookies hissue
  obtain ⟨hs, rfl⟩ := issue_eq_ok_iff.1 hissue
  obtain ⟨-, hpayload, -⟩ := Session.ofPayload?_eq_some_iff.1 hs
  have hrecords : Records fresh t p provider user s.payload := by
    rw [hpayload]
    exact records_newPayload
  rw [← hpayload]
  refine ⟨hrecords, _, _, rfl, ?_⟩
  have hgrants := a.issuer.grants fresh.nonce s.payload p.lifetime
  refine ⟨hgrants, ?_, ?_, ?_⟩
  · rw [hpayload]
    exact comeBack_newPayload
  · intro r body g s' hback hsame
    exact hback.passes hsame.csrfToken
  · intro lookup nonce now p' r body hsession hlookup hback
    have hq : a.Presents r s.payload := ⟨_, hsession, hgrants.opens⟩
    refine ⟨?_, fun s' => sameSession_of_decide hq⟩
    rw [← hrecords.expiry, ← Int64.lt_iff_toInt_lt,
      (decide_follows_table a lookup nonce now p' r body).authenticated]
    constructor
    · rintro ⟨s', hs', -⟩
      exact ((exists_live_iff_of_presents hq).1 ⟨s', hs'⟩).1
    · intro hlt
      obtain ⟨s', hs'⟩ := (exists_live_iff_of_presents hq).2 ⟨hlt, .inl hlookup⟩
      refine ⟨s', hs', hback.imp_right fun h => h.passes ?_⟩
      -- the live session is the one that was brought, and so is its token
      rw [hs'.presented.unique hq]
      rfl

def zeroFresh : Fresh :=
  ⟨.zero 16, .zero 24, .zero 12⟩

def zeroAuthenticator : Authenticator :=
  ⟨⟨.zero 32, true⟩, .failClosed, .none, 250⟩

def hourly : Policy := .ofSession .none {}

def zeroLogin : Payload :=
  ⟨"00000000-0000-4000-8000-000000000000", "local", 3600, ⟨"alice", .empty⟩,
    "AAAAAAAAAAAAAAAAAAAAAAAAAAAAAAAA"⟩

/-- Alice has her session for an hour, and not a second longer. -/
theorem alice_has_an_hour :
    ∃ s cookies, zeroAuthenticator.issue zeroFresh 0 hourly "local" ⟨"alice", .empty⟩ =
        .ok (s, cookies) ∧
      s.payload = zeroLogin ∧
      ∀ now, (∃ s', (zeroAuthenticator.decide (fun _ => .notRevoked) zeroFresh.nonce now hourly
        (zeroAuthenticator.issuer.bearer zeroFresh.nonce zeroLogin) []).outcome =
          .authenticated s') ↔ now.toInt < 3600 := by
  obtain ⟨hissues, hlasts⟩ :=
    issued_session_lasts zeroAuthenticator zeroFresh 0 hourly "local" ⟨"alice", .empty⟩
  obtain ⟨⟨s, cookies⟩, hissue⟩ := hissues.2 ⟨by decide, by decide⟩
  obtain ⟨-, session, csrf, hcookies, hhonours⟩ := hlasts s cookies hissue
  have hnew : newPayload zeroFresh 0 hourly "local" ⟨"alice", .empty⟩ = zeroLogin := by
    decide +kernel
  have hpayload : s.payload = zeroLogin := (issue_payload hissue).trans hnew
  have hvalue : session.value =
      Token.sealJson zeroAuthenticator.issuer.key zeroFresh.nonce zeroLogin.toJson := by
    have hmade := (issue_eq_ok_iff.1 hissue).2
    rw [hcookies, hnew] at hmade
    rw [(List.cons.inj hmade).1]
    rfl
  refine ⟨s, cookies, hissue, hpayload, fun now => ?_⟩
  have hsent := zeroAuthenticator.issuer.requestCookie?_bearer zeroFresh.nonce zeroLogin
  rw [← hvalue] at hsent
  exact (hhonours.lasts (fun _ => .notRevoked) zeroFresh.nonce now hourly _ [] hsent rfl
    (.inl (by decide))).1

end Authenticator

end AuthGateway
