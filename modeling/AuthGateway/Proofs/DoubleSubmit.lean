import AuthGateway.Proofs.Decision
import AuthGateway.Proofs.Secrets

/-!
Double submission. A request brings a token back in a header, in its query, or
in a form that is its body. The first of these places in which there is one
counts, right or wrong, and nothing else that a request brings, cookies least of
all, makes a difference to the guard.
-/
namespace AuthGateway

open Http (Request HeaderValue)
open Revocation (Lookup)

namespace Csrf

open Context (tokenHeader tokenParameter formType hasForm)
open Authenticator (context)

/-- The first token header of a request writes a token in visible ASCII. -/
def SaysInHeader (r : Request) (token : String) : Prop :=
  ∃ v, r.headers.first? tokenHeader = some v ∧
    (∀ b ∈ v.bytes, HeaderValue.isVisibleByte b = true) ∧ v.bytes = Utf8.encode token

def SaysInQuery (r : Request) (token : String) : Prop :=
  Form.IsFirst tokenParameter (Form.pairs (Utf8.encode r.query)) token

/-- The content type is that of forms, parameters and case aside. -/
def IsForm (r : Request) : Prop :=
  ∃ text, r.headers.text? .contentType = some text ∧
    Ascii.lower (String.ofList (Blank.trimChars (Split.before ';' text.toList))) = formType

def SaysInBody (r : Request) (body : List UInt8) (token : String) : Prop :=
  IsForm r ∧ Form.IsFirst tokenParameter (Form.pairs body) token

/-- The token of a request that counts. -/
inductive Echoes (r : Request) (body : List UInt8) (token : String) : Prop
  | header (h : SaysInHeader r token)
  | query (hheader : ∀ t, ¬ SaysInHeader r t) (h : SaysInQuery r token)
  | form (hheader : ∀ t, ¬ SaysInHeader r t) (hquery : ∀ t, ¬ SaysInQuery r t)
      (h : SaysInBody r body token)

structure SaySame (r : Request) (body : List UInt8) (r' : Request) (body' : List UInt8) : Prop where
  header : ∀ t, SaysInHeader r t ↔ SaysInHeader r' t
  query : ∀ t, SaysInQuery r t ↔ SaysInQuery r' t
  form : ∀ t, SaysInBody r body t ↔ SaysInBody r' body' t

variable {r r' : Request} {body body' : List UInt8} {token : String}

/-- Requests that say the same say the same token. -/
theorem SaySame.echoes_iff (h : SaySame r body r' body') :
    Echoes r body token ↔ Echoes r' body' token := by
  have lift : ∀ {r r' : Request} {body body' : List UInt8}, SaySame r body r' body' →
      Echoes r body token → Echoes r' body' token := by
    intro r r' body body' h he
    cases he with
    | header ht => exact .header ((h.header _).1 ht)
    | query hh ht => exact .query (fun t => (not_congr (h.header t)).1 (hh t)) ((h.query _).1 ht)
    | form hh hq ht =>
        exact .form (fun t => (not_congr (h.header t)).1 (hh t)) (fun t => (not_congr (h.query t)).1 (hq t))
          ((h.form _).1 ht)
  constructor
  · exact lift h
  · exact lift ⟨fun t => (h.header t).symm, fun t => (h.query t).symm, fun t => (h.form t).symm⟩

/-! What the guard is told of a request are these places. -/

theorem saysInHeader_iff : SaysInHeader r token ↔ (context r body).headerToken = some token := by
  have hsame : (context r body).headerToken = r.headers.text? tokenHeader := by
    rw [context, Context.withFormBody]
    split <;> rfl
  rw [hsame, SaysInHeader, Http.Headers.text?, Option.bind_eq_some_iff]
  simp only [Http.text?_eq_some_iff]

theorem saysInQuery_iff :
    SaysInQuery r token ↔ (Context.ofRequest r).parameterToken = some token :=
  Form.first?_eq_some_iff.symm

theorem isForm_iff : IsForm r ↔ hasForm r = true := by
  have hlower : Ascii.lower formType = formType := by decide
  rw [IsForm, hasForm]
  cases r.headers.text? .contentType with
  | none => simp
  | some text => simp [Ascii.sameIgnoringCase, hlower]

theorem parameterToken_iff :
    (context r body).parameterToken = some token ↔
      SaysInQuery r token ∨ (∀ t, ¬ SaysInQuery r t) ∧ SaysInBody r body token := by
  simp only [saysInQuery_iff, SaysInBody, isForm_iff, context, Context.withFormBody]
  cases hquery : (Context.ofRequest r).parameterToken with
  | some t => simp [hquery]
  | none =>
      cases hform : hasForm r with
      | true => simp [Form.first?_eq_some_iff]
      | false => simp [hquery]

/-- The token that counts is the one in the header, or else the parameter. -/
theorem echoes_iff :
    Echoes r body token ↔
      ((context r body).headerToken.orElse fun _ => (context r body).parameterToken) =
        some token := by
  have hnone : (∀ t, ¬ SaysInHeader r t) ↔ (context r body).headerToken = none := by
    rw [Option.eq_none_iff_forall_ne_some]
    exact forall_congr' fun t => not_congr saysInHeader_iff
  -- a token in the header hides the two other places
  cases hheader : (context r body).headerToken with
  | some t =>
      have hsays : SaysInHeader r t := saysInHeader_iff.2 hheader
      rw [Option.orElse_some, ← hheader, ← saysInHeader_iff]
      constructor
      · intro he
        cases he with
        | header h => exact h
        | query hh _ => exact absurd hsays (hh t)
        | form hh _ _ => exact absurd hsays (hh t)
      · exact .header
  | none =>
      have hsilent := hnone.2 hheader
      rw [Option.orElse_none, parameterToken_iff]
      constructor
      · intro he
        cases he with
        | header h => exact absurd h (hsilent token)
        | query _ h => exact .inl h
        | form _ hq h => exact .inr ⟨hq, h⟩
      · rintro (h | ⟨hq, h⟩)
        · exact .query hsilent h
        · exact .form hsilent hq h

theorem passes_iff_echoes (r : Request) (body : List UInt8) (s : Session) :
    Guard.doubleSubmit.blocks (context r body) s = false ↔ Echoes r body s.payload.csrfToken := by
  rw [echoes_iff, Guard.blocks, Bool.not_eq_false', Guard.echoesToken]
  cases (context r body).headerToken.orElse fun _ => (context r body).parameterToken with
  | none => simp
  | some t => simp [Secret.equal_iff]

variable {s s' : Session}

theorem blocks_eq_of_saySame (h : SaySame r body r' body')
    (htoken : s.payload.csrfToken = s'.payload.csrfToken) :
    Guard.doubleSubmit.blocks (context r body) s =
      Guard.doubleSubmit.blocks (context r' body') s' := by
  rw [Bool.eq_iff_iff, ← Bool.not_eq_false, ← Bool.not_eq_false, passes_iff_echoes,
    passes_iff_echoes, h.echoes_iff, htoken]

section

variable {a : Authenticator} {lookup : String → Lookup} {now : Int64} {p : Policy}
  (hp : p.guard = .doubleSubmit)

include hp

theorem passesGuard_iff_echoes (hm : r.method ∉ p.safeMethods) :
    Authenticator.PassesGuard p r body s ↔ Echoes r body s.payload.csrfToken := by
  rw [Authenticator.PassesGuard, hp, passes_iff_echoes]
  exact or_iff_right hm

/-- Of two requests with one session that say the same the decisions are the same. -/
theorem decide_eq_of_saySame (hm : r.method ∉ p.safeMethods) (hm' : r'.method ∉ p.safeMethods)
    (hs : a.IsLive lookup now r s) (hs' : a.IsLive lookup now r' s)
    (h : SaySame r body r' body') (nonce : Octets 12) :
    a.decide lookup nonce now p r body = a.decide lookup nonce now p r' body' := by
  have hiff : Authenticator.PassesGuard p r body s ↔ Authenticator.PassesGuard p r' body' s := by
    rw [passesGuard_iff_echoes hp hm, passesGuard_iff_echoes hp hm', h.echoes_iff]
  by_cases hpass : Authenticator.PassesGuard p r body s
  · rw [Authenticator.decide_of_passing hs hpass, Authenticator.decide_of_passing hs' (hiff.1 hpass)]
  · rw [Authenticator.decide_of_blocked hs hpass,
      Authenticator.decide_of_blocked hs' (mt hiff.2 hpass)]

end

structure DoubleSubmission (r : Request) (body : List UInt8) (s : Session) : Prop where
  passes : Guard.doubleSubmit.blocks (context r body) s = false ↔
    Echoes r body s.payload.csrfToken
  /-- Without the token in one of the places a request is blocked, whatever else
  it brings. -/
  blocked : ¬ SaysInHeader r s.payload.csrfToken → ¬ SaysInQuery r s.payload.csrfToken →
    ¬ SaysInBody r body s.payload.csrfToken →
      Guard.doubleSubmit.blocks (context r body) s = true
  settled : ∀ (r' : Request) (body' : List UInt8) (s' : Session), SaySame r body r' body' →
    s.payload.csrfToken = s'.payload.csrfToken →
      Guard.doubleSubmit.blocks (context r body) s = Guard.doubleSubmit.blocks (context r' body') s'
  /-- A request that carries the session is let in under this guard, unless its
  method is safe, exactly if it echoes the token, and otherwise it is blocked. -/
  decided : ∀ (a : Authenticator) (lookup : String → Lookup) (nonce : Octets 12) (now : Int64)
    (p : Policy), p.guard = .doubleSubmit → r.method ∉ p.safeMethods → a.IsLive lookup now r s →
      ((∃ s', (a.decide lookup nonce now p r body).outcome = .authenticated s') ↔
        Echoes r body s.payload.csrfToken) ∧
      (¬ Echoes r body s.payload.csrfToken →
        a.decide lookup nonce now p r body = ⟨.rejected .csrfBlocked, []⟩) ∧
      ∀ (r' : Request) (body' : List UInt8), r'.method ∉ p.safeMethods →
        a.IsLive lookup now r' s → SaySame r body r' body' →
          a.decide lookup nonce now p r body = a.decide lookup nonce now p r' body'

/-- A request passes double submission exactly if the first place in which it
says a token says that of the session. -/
theorem double_submission_iff_echoes (r : Request) (body : List UInt8) (s : Session) :
    DoubleSubmission r body s where
  passes := passes_iff_echoes r body s
  blocked := by
    intro hheader hquery hbody
    rw [← Bool.not_eq_false, passes_iff_echoes]
    intro he
    cases he with
    | header h => exact hheader h
    | query _ h => exact hquery h
    | form _ _ h => exact hbody h
  settled := fun _ _ _ hsame htoken => blocks_eq_of_saySame hsame htoken
  decided := by
    intro a lookup nonce now p hp hm hs
    have hiff : Authenticator.PassesGuard p r body s ↔ Echoes r body s.payload.csrfToken :=
      passesGuard_iff_echoes hp hm
    have table := Authenticator.decide_follows_table a lookup nonce now p r body
    refine ⟨?_, ?_, ?_⟩
    · rw [table.authenticated, ← hiff]
      constructor
      · rintro ⟨t, ht, hpass⟩
        exact ht.unique hs ▸ hpass
      · intro hpass
        exact ⟨s, hs, hpass⟩
    · intro hnot
      exact Authenticator.decide_of_blocked hs (mt hiff.1 hnot)
    · intro r' body' hm' hs' hsame
      exact decide_eq_of_saySame hp hm hm' hs hs' hsame nonce

/-- A wrong token in the header is not made good by the right one in the query. -/
example : Guard.doubleSubmit.blocks
    (context ⟨.post, "/", "CSRFToken=t", ⟨[(tokenHeader, ⟨Utf8.encode "x"⟩)]⟩, []⟩ [])
    ⟨⟨"s", "local", 60, ⟨"alice", .empty⟩, "t"⟩, 60, by decide⟩ = true := by
  decide +kernel

end Csrf

end AuthGateway
