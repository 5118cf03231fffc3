import AuthGateway.Http.Message
import AuthGateway.Proofs.Token
import AuthGateway.Session.Cookies

/-!
A cookie that the gateway has sealed comes back unchanged when a client sends
it: the characters of a token are neither separators nor blanks, quotes or
percent signs, so that every rule by which request cookies are read leaves them
as they stand.
-/
namespace AuthGateway

namespace Token

theorem toNat_of_isTokenChar {c : Char} (h : isTokenChar c = true) :
    0x2D ≤ c.toNat ∧ c.toNat ≤ 0x7A ∧ c.toNat ≠ 0x3B ∧ c.toNat ≠ 0x3D := by
  have hrange : (0x41 ≤ c.toNat ∧ c.toNat ≤ 0x5A) ∨ (0x61 ≤ c.toNat ∧ c.toNat ≤ 0x7A) ∨
      (0x30 ≤ c.toNat ∧ c.toNat ≤ 0x39) ∨ c = '-' ∨ c = '_' ∨ c = '.' := by
    simp only [isTokenChar, Base64.isUrlSafe, Base64.Alphabet.value?, Bool.or_eq_true,
      beq_iff_eq] at h
    cases h with
    | inr hdot => exact .inr (.inr (.inr (.inr (.inr hdot))))
    | inl hsafe =>
        split at hsafe
        · next hc => exact .inl hc
        · split at hsafe
          · next hc => exact .inr (.inl hc)
          · split at hsafe
            · next hc => exact .inr (.inr (.inl hc))
            · split at hsafe
              · next hc => exact .inr (.inr (.inr (.inl hc)))
              · split at hsafe
                · next hc => exact .inr (.inr (.inr (.inr (.inl hc))))
                · exact absurd hsafe (by simp)
  rcases hrange with h | h | h | rfl | rfl | rfl
  · omega
  · omega
  · omega
  · decide
  · decide
  · decide

/-- What matters of the characters of a token to those who read cookies. -/
theorem plain_of_isTokenChar {c : Char} (h : isTokenChar c = true) :
    c.toNat < 0x80 ∧ Blank.isBlank c = false ∧ c ≠ ';' ∧ c ≠ '=' ∧ c ≠ '%' ∧ c ≠ '"' := by
  have hn := toNat_of_isTokenChar h
  have hne : ∀ d : Char, c.toNat ≠ d.toNat → c ≠ d := fun d hd e => hd (e ▸ rfl)
  refine ⟨by omega, ?_, hne _ hn.2.2.1, hne _ hn.2.2.2, hne _ ?_, hne _ ?_⟩
  · simp only [Blank.isBlank, Bool.or_eq_false_iff, Bool.and_eq_false_imp, beq_eq_false_iff_ne,
      decide_eq_true_eq, decide_eq_false_iff_not]
    omega
  · change c.toNat ≠ 0x25
    omega
  · change c.toNat ≠ 0x22
    omega

end Token

namespace Http

def cookiePieces? (h : Headers) : Option (List (List Char)) :=
  ((h.values .cookie).mapM fun v => Utf8.decode? v.bytes).map fun texts =>
    texts.flatMap fun text => (Split.pieces ';' text.toList).map Blank.trimChars

theorem requestCookies_eq (h : Headers) :
    requestCookies h = ((cookiePieces? h).getD []).filterMap pair? := by
  rw [requestCookies, cookiePieces?]
  cases (h.values .cookie).mapM fun v => Utf8.decode? v.bytes with
  | none => rfl
  | some texts =>
      rw [Option.map_some, Option.getD_some, List.filterMap_flatMap]
      rfl

/-- A cookie stands in the headers of a request as it is, in front of all others
that have its name. -/
def Headers.Sends (h : Headers) (name value : String) : Prop :=
  ∃ front back, cookiePieces? h = some (front ++ (name.toList ++ '=' :: value.toList) :: back) ∧
    ∀ piece ∈ front, ∀ p, pair? piece = some p → p.1 ≠ name

def Headers.ofCookie (name value : String) : Headers :=
  ⟨[(.cookie, ⟨Utf8.encode (name ++ "=" ++ value)⟩)]⟩

theorem unquote_of_not_mem {cs : List Char} (h : '"' ∉ cs) : unquote cs = cs := by
  unfold unquote
  split
  · next rest => exact absurd List.mem_cons_self h
  · rfl

section

variable {name value : String} (hne : name.toList ≠ [])
  (hn : ∀ c ∈ name.toList, Token.isTokenChar c = true)
  (hv : ∀ c ∈ value.toList, Token.isTokenChar c = true)

include hne hn hv

theorem rawPair?_plain :
    rawPair? (name.toList ++ '=' :: value.toList) = some (name.toList, value.toList) := by
  have heq : '=' ∉ name.toList := fun hm => (Token.plain_of_isTokenChar (hn _ hm)).2.2.2.1 rfl
  have hquote : '"' ∉ value.toList := fun hm =>
    (Token.plain_of_isTokenChar (hv _ hm)).2.2.2.2.2 rfl
  have tname : Blank.trimChars name.toList = name.toList :=
    Blank.trimBy_of_forall fun c hc => (Token.plain_of_isTokenChar (hn c hc)).2.1
  have tvalue : Blank.trimChars value.toList = value.toList :=
    Blank.trimBy_of_forall fun c hc => (Token.plain_of_isTokenChar (hv c hc)).2.1
  simp [rawPair?, Split.once?_append_sep heq, tname, tvalue, unquote_of_not_mem hquote, hne]

theorem pair?_plain : pair? (name.toList ++ '=' :: value.toList) = some (name, value) := by
  have decoded : ∀ s : String, (∀ c ∈ s.toList, Token.isTokenChar c = true) →
      Percent.decodeText? (String.ofList s.toList) = some s := by
    intro s hs
    rw [String.ofList_toList]
    apply Percent.decodeText?_of_not_mem
    intro hm
    exact (Token.plain_of_isTokenChar (hs _ hm)).2.2.2.2.1 rfl
  rw [pair?, rawPair?_plain hne hn hv]
  simp only [Option.bind_eq_bind, Option.bind_some, decoded name hn, decoded value hv]
  rfl

/-- A name and a value of token characters are read as they were sent. -/
theorem requestCookie?_of_sends {h : Headers} (hs : h.Sends name value) :
    requestCookie? h name = some value := by
  obtain ⟨front, back, hpieces, hfirst⟩ := hs
  rw [requestCookie?, requestCookies_eq, hpieces, Option.getD_some, List.filterMap_append,
    List.filterMap_cons_some (pair?_plain hne hn hv), List.lookup_eq_some_iff]
  refine ⟨_, _, rfl, ?_⟩
  intro p hp
  obtain ⟨piece, hpiece, hpair⟩ := List.mem_filterMap.1 hp
  exact bne_iff_ne.2 (hfirst piece hpiece p hpair).symm

omit hne in
/-- A request that brings one cookie sends it. -/
theorem sends_ofCookie : (Headers.ofCookie name value).Sends name value := by
  have htext : (name ++ "=" ++ value).toList = name.toList ++ '=' :: value.toList := by simp
  have hall : ∀ c ∈ name.toList ++ '=' :: value.toList, Blank.isBlank c = false ∧ c ≠ ';' := by
    intro c hc
    simp only [List.mem_append, List.mem_cons] at hc
    rcases hc with hc | rfl | hc
    · have := Token.plain_of_isTokenChar (hn c hc)
      exact ⟨this.2.1, this.2.2.1⟩
    · decide
    · have := Token.plain_of_isTokenChar (hv c hc)
      exact ⟨this.2.1, this.2.2.1⟩
  have hcut : Split.pieces ';' (name.toList ++ '=' :: value.toList) =
      [name.toList ++ '=' :: value.toList] :=
    Split.pieces_of_not_mem fun hm => (hall _ hm).2 rfl
  have htrim : Blank.trimChars (name.toList ++ '=' :: value.toList) =
      name.toList ++ '=' :: value.toList :=
    Blank.trimBy_of_forall fun c hc => (hall c hc).1
  have hvalues : (Headers.ofCookie name value).values .cookie =
      [⟨Utf8.encode (name ++ "=" ++ value)⟩] := rfl
  have hdecode : Utf8.decode? (Utf8.encode (name ++ "=" ++ value)) = some (name ++ "=" ++ value) :=
    Utf8.decode?_encode _
  refine ⟨[], [], ?_, nofun⟩
  simp [cookiePieces?, hvalues, hdecode, htext, hcut, htrim]

theorem requestCookie?_ofCookie :
    requestCookie? (Headers.ofCookie name value) name = some value :=
  requestCookie?_of_sends hne hn hv (sends_ofCookie hn hv)

end

end Http

namespace CookieIssuer

theorem isTokenChar_of_mem_sessionName {c : Char} (h : c ∈ sessionName.toList) :
    Token.isTokenChar c = true :=
  List.all_eq_true.1 (by decide) c h

theorem isTokenChar_of_mem_csrfName {c : Char} (h : c ∈ csrfName.toList) :
    Token.isTokenChar c = true :=
  List.all_eq_true.1 (by decide) c h

/-- The plain request of a client that brings a sealed payload as its session
cookie, and nothing else. -/
def bearer (i : CookieIssuer) (nonce : Octets 12) (p : Payload) : Http.Request :=
  ⟨.get, "/", "", .ofCookie sessionName (Token.sealJson i.key nonce p.toJson), []⟩

theorem requestCookie?_bearer (i : CookieIssuer) (nonce : Octets 12) (p : Payload) :
    Http.requestCookie? (i.bearer nonce p).headers sessionName =
      some (Token.sealJson i.key nonce p.toJson) :=
  Http.requestCookie?_ofCookie (by decide) (fun _ => isTokenChar_of_mem_sessionName)
    (fun _ => Token.isTokenChar_of_mem_sealJson)

theorem readPayload_bearer {i : CookieIssuer} {nonce : Octets 12} {p : Payload}
    (h : (Json.parse? (Utf8.encode p.toJson.render)).bind Payload.ofJson? = some p) :
    i.readPayload (i.bearer nonce p).headers = .ok (some p) := by
  simp only [readPayload, requestCookie?_bearer, Token.openJson_sealJson h]
  rfl

end CookieIssuer

end AuthGateway
