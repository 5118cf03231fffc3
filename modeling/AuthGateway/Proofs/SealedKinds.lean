import AuthGateway.Proofs.Header
import AuthGateway.Proofs.Payloads
import AuthGateway.Proofs.Refusals

/-!
Sealed values of different kinds. A session and the state of a login are sealed under
one key and behind one header, and readers of records pass over fields that they do not
know. Each kind has a field that has to be there and that the other kind does not write.
No text in the fields of the other kind makes up for it: what is written as a text is
read as a text, and a field is read only where one was written.
-/
namespace AuthGateway

namespace Json

variable {names : List String} {name : String} {fields : List (String × Value)} {r : Record}

theorem valuesOf_fieldNodes_of_absent (h : name ∉ fields.map Prod.fst) :
    valuesOf name (fieldNodes fields) = [] := by
  induction fields with
  | nil => rfl
  | cons f fields ih =>
      obtain ⟨k, v⟩ := f
      rw [List.map_cons, List.mem_cons, not_or] at h
      have hne : some k ≠ some name := fun e => h.1 (Option.some.inj e).symm
      rw [fieldNodes, valuesOf, if_neg hne, ih h.2]

/-- The record of a written object lacks every field that was not written. -/
theorem lookup_of_absent (h : (Value.object fields).node.record? names = some r)
    (hname : name ∈ names) (habsent : name ∉ fields.map Prod.fst) :
    r.values.lookup name = none := by
  rw [Value.node, Node.record?, Option.map_eq_some_iff] at h
  obtain ⟨kept, hkept, rfl⟩ := h
  have hvalues := (values_of_keepFields? hkept).2 name hname
  rw [valuesOf_fieldNodes_of_absent habsent] at hvalues
  exact Option.toList_eq_nil_iff.1 hvalues

theorem required?_of_absent {α : Type} {read : Node → Option α}
    (h : (Value.object fields).node.record? names = some r) (hname : name ∈ names)
    (habsent : name ∉ fields.map Prod.fst) : r.required? name read = none := by
  rw [Record.required?, lookup_of_absent h hname habsent, Option.bind_none]

end Json

/-- The state of a login has no identifier, which a payload needs. -/
theorem Payload.ofJson?_loginState (s : LoginState) : ofJson? s.toJson.node = none := by
  rw [ofJson?, LoginState.toJson]
  cases hread : (Json.Value.object _).node.record? _ with
  | none => rfl
  | some r =>
      have hid : r.required? "id" (·.text?) = none :=
        Json.required?_of_absent hread (by simp) (by simp)
      simp [hid]

/-- A payload has no nonce, which the state of a login needs. -/
theorem LoginState.ofJson?_payload (p : Payload) : ofJson? p.toJson.node = none := by
  rw [ofJson?, Payload.toJson]
  cases hread : (Json.Value.object _).node.record? _ with
  | none => rfl
  | some r =>
      have hnonce : r.required? "nonce" (·.text?) = none :=
        Json.required?_of_absent hread (by simp) (by simp)
      simp [hnonce]

namespace Token

/-- A sealed value that a reader does not take is found to be of another shape. -/
theorem openJson_sealJson_of_unread {α : Type} {read : Json.Node → Option α} {v : Json.Value}
    (hv : v.IsExact) (h : read v.node = none) (key : Octets 32) (nonce : Octets 12) :
    openJson key (sealJson key nonce v) read = .error .schemaMismatch := by
  have hread : (Json.parse? (Utf8.encode v.render)).bind read = none :=
    (Json.read_render hv).trans h
  simp only [openJson, openWith, sealJson, openBytes_ofPlaintext, hread]

theorem openJson_loginState (key : Octets 32) (nonce : Octets 12) (s : LoginState) :
    openJson key (sealJson key nonce s.toJson) Payload.ofJson? = .error .schemaMismatch :=
  openJson_sealJson_of_unread s.isExact_toJson (Payload.ofJson?_loginState s) key nonce

theorem openJson_payload (key : Octets 32) (nonce : Octets 12) (p : Payload) :
    openJson key (sealJson key nonce p.toJson) LoginState.ofJson? = .error .schemaMismatch :=
  openJson_sealJson_of_unread p.isExact_toJson (LoginState.ofJson?_payload p) key nonce

end Token

namespace Authenticator

open Http (Request)
open Revocation (Store)

/-- What comes of a request that brings no session, whatever the time, the store and the
policy are: it is taken for an anonymous one, and logging out revokes nothing. -/
structure BringsNoSession (a : Authenticator) (r : Request) : Prop where
  unread : ∀ p, ¬ a.Presents r p
  decided : ∀ store nonce now policy body, a.authenticate store nonce now policy r body =
    ⟨if policy.allowAnonymous then .anonymous else .rejected .unauthenticated, []⟩
  loggedOut : ∀ store now body,
    a.logout store now r body = (store, .loggedOut false a.issuer.removals)

variable {a : Authenticator} {r : Request}

/-- A session cookie that does not open is as good as none. -/
theorem bringsNoSession_of_unreadable {token : String} {e : Token.OpenError}
    (h : Http.requestCookie? r.headers CookieIssuer.sessionName = some token)
    (he : Token.openJson a.issuer.key token Payload.ofJson? = .error e) :
    a.BringsNoSession r where
  unread := by
    rintro p ⟨token', htoken', hopen⟩
    rw [h] at htoken'
    rw [← Option.some.inj htoken', he] at hopen
    cases hopen
  decided := fun _ _ _ _ _ => (Lacks.unreadable h he).decide_eq
  loggedOut := fun _ _ _ => (Lacks.unreadable h he).logout_eq

end Authenticator

namespace CookieIssuer

/-- Sealed values of one kind are of no use as the other: no token of a login state opens
as a payload, so that no request gets a session from such a cookie, and no token of a
payload opens as a login state, so that none is read from such a cookie. -/
theorem kinds_are_kept_apart (nonce : Octets 12) :
    (∀ (key : Octets 32) (s : LoginState),
      Token.openJson key (Token.sealJson key nonce s.toJson) Payload.ofJson? =
        .error .schemaMismatch) ∧
    (∀ (key : Octets 32) (p : Payload),
      Token.openJson key (Token.sealJson key nonce p.toJson) LoginState.ofJson? =
        .error .schemaMismatch) ∧
    (∀ (a : Authenticator) (s : LoginState) (r : Http.Request),
      Http.requestCookie? r.headers sessionName = some (a.issuer.loginState nonce s).value →
        a.BringsNoSession r) ∧
    ∀ (i : CookieIssuer) (p : Payload) (maxAge : Int64) (h : Http.Headers),
      Http.requestCookie? h loginStateName = some (i.session nonce p maxAge).value →
        i.readLoginState h = none := by
  refine ⟨fun key s => Token.openJson_loginState key nonce s,
    fun key p => Token.openJson_payload key nonce p, fun a s r h => ?_, fun i p maxAge h hp => ?_⟩
  · exact Authenticator.bringsNoSession_of_unreadable h
      (Token.openJson_loginState a.issuer.key nonce s)
  · have hopen := Token.openJson_payload i.key nonce p
    rw [readLoginState, hp, Option.bind_some]
    exact congrArg Except.toOption hopen

/-- The state of a login whose texts look like fields of a payload. -/
def payloadLike : LoginState where
  provider := "\",\"id\":\"root\",\"expires_at\":4102444800,\"csrf_token\":\""
  returnUrl := some "\"user\":\x7b\"id\":\"root\"\x7d"
  nonce := "\\\",\"id\":\"root"

/-- A payload with a nonce wherever a text can be. -/
def stateLike : Payload where
  id := "\",\"nonce\":\"1"
  provider := "nonce"
  expiresAt := 4102444800
  user := ⟨"alice", Dictionary.empty.insert "nonce" "\",\"nonce\":\"1"⟩
  csrfToken := "\x7d,\"nonce\":\"1\",\"return_url\":null"

/-- Texts that look like fields do not make up for them. -/
theorem look_alikes_are_kept_apart :
    let a : Authenticator := ⟨⟨.zero 32, true⟩, .failOpen, .none, 250⟩
    let state := (a.issuer.loginState (.zero 12) payloadLike).value
    let session := (a.issuer.session (.zero 12) stateLike 60).value
    let r : Http.Request := ⟨.get, "/", "", .ofCookie sessionName state, []⟩
    let h : Http.Headers := .ofCookie loginStateName session
    (Http.requestCookie? r.headers sessionName = some state ∧ a.BringsNoSession r) ∧
      Http.requestCookie? h loginStateName = some session ∧ a.issuer.readLoginState h = none := by
  intro a state session r h
  have hname : ∀ c ∈ loginStateName.toList, Token.isTokenChar c = true :=
    List.all_eq_true.1 (by decide)
  have hstate : Http.requestCookie? r.headers sessionName = some state :=
    Http.requestCookie?_ofCookie (by decide) (fun _ => isTokenChar_of_mem_sessionName)
      fun _ => Token.isTokenChar_of_mem_sealJson
  have hsession : Http.requestCookie? h loginStateName = some session :=
    Http.requestCookie?_ofCookie (by decide) hname fun _ => Token.isTokenChar_of_mem_sealJson
  obtain ⟨-, -, hbrings, hread⟩ := kinds_are_kept_apart (.zero 12)
  exact ⟨⟨hstate, hbrings a payloadLike r hstate⟩, hsession, hread a.issuer stateLike 60 h hsession⟩

end CookieIssuer

end AuthGateway
