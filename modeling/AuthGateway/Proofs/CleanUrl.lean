import AuthGateway.Proofs.CanonicalPath
import AuthGateway.Proofs.RenderedUrl

/-!
The text of a URL that was read, read again. What was escaped stays as it is, the port
and the segments of the path are those that were written, and nothing but the text of
the host decides on whether there is a URL and which host it has.
-/
namespace AuthGateway

namespace Percent

variable {escaped : Char → Bool}

theorem encodeChar_ne_nil (escaped : Char → Bool) (c : Char) : encodeChar escaped c ≠ [] := by
  by_cases hkept : IsKept escaped c
  · rw [encodeChar_of_kept hkept]
    exact List.cons_ne_nil c []
  · rw [encodeChar_of_not_kept hkept]
    obtain ⟨b, bs, hb⟩ := List.exists_cons_of_ne_nil (Utf8.encodeChar_ne_nil c)
    rw [hb, List.flatMap_cons]
    exact List.append_ne_nil_of_left_ne_nil (List.cons_ne_nil _ _) _

theorem encode_ne_nil (escaped : Char → Bool) {cs : List Char} (h : cs ≠ []) :
    encode escaped cs ≠ [] := by
  obtain ⟨c, rest, rfl⟩ := List.exists_cons_of_ne_nil h
  rw [encode_cons]
  exact List.append_ne_nil_of_left_ne_nil (encodeChar_ne_nil escaped c) _

end Percent

namespace Decimal

theorem value_natChars (n : Nat) : value (natChars n) = n :=
  Nat.ofDigitChars_toDigits (by decide) (by decide)

theorem natChars_ne_nil (n : Nat) : natChars n ≠ [] :=
  Nat.toDigits_ne_nil

theorem isDigit_of_mem_natChars {n : Nat} {c : Char} (h : c ∈ natChars n) :
    Ascii.isDigit c = true :=
  (Ascii.isDigit_iff c).2 (toNat_of_mem_natChars h)

end Decimal

namespace Url

open Percent (IsKept)

/-! Users and passwords. -/

theorem isKept_of_mem_escaped {cs : List Char} {c : Char}
    (h : c ∈ Percent.encode Escape.inUserinfo cs) : IsKept Escape.inUserinfo c :=
  Percent.kept_of_mem_encode (by decide) (by decide) h

theorem escaped_escaped (cs : List Char) :
    Percent.encode Escape.inUserinfo (Percent.encode Escape.inUserinfo cs) =
      Percent.encode Escape.inUserinfo cs :=
  Percent.encode_of_kept fun _ hc => isKept_of_mem_escaped hc

theorem plain_of_kept {c : Char} (h : IsKept Escape.inUserinfo c) :
    0x20 < c.toNat ∧ c ∉ "/\\?#:".toList := by
  have hall : ∀ n < 128, IsKept Escape.inUserinfo (Char.ofNat n) →
      0x20 < n ∧ Char.ofNat n ∉ "/\\?#:".toList := by
    decide
  simpa using hall c.toNat h.1 (by simpa using h)

def Authority.userText (a : Authority) : Option (List Char) :=
  match a.username, a.password with
  | [], none => none
  | name, none => some name
  | name, some password => some (name ++ ':' :: password)

theorem Authority.userChars_eq (a : Authority) : a.userChars = WebText.userPart a.userText := by
  obtain ⟨username, password, host, port⟩ := a
  cases username <;> cases password <;> simp [userChars, userText, WebText.userPart]

/-- User and password as they are read: both escaped, and a password only if it is not
empty. -/
structure Authority.IsEscaped (a : Authority) : Prop where
  username : ∃ name, a.username = Percent.encode Escape.inUserinfo name
  password : ∀ p ∈ a.password, ∃ cs ≠ [], p = Percent.encode Escape.inUserinfo cs

theorem isEscaped_of_credentials {a : Authority} {user : List Char}
    (h : credentials user = (a.username, a.password)) : a.IsEscaped := by
  rw [credentials] at h
  split at h
  · obtain ⟨hname, hpassword⟩ := Prod.mk.inj h
    exact ⟨⟨_, hname.symm⟩, by simp [← hpassword]⟩
  · obtain ⟨hname, hpassword⟩ := Prod.mk.inj h
    exact ⟨⟨_, hname.symm⟩, by simp [← hpassword]⟩
  · next name password hne _ =>
      obtain ⟨hname, hpassword⟩ := Prod.mk.inj h
      refine ⟨⟨_, hname.symm⟩, fun p hp => ⟨password, hne, ?_⟩⟩
      rw [← hpassword] at hp
      exact (Option.some.inj hp).symm

/-- Credentials that were read are read again from their text. -/
theorem credentials_userText {a : Authority} (h : a.IsEscaped) :
    credentials (a.userText.getD []) = (a.username, a.password) := by
  obtain ⟨name, hname⟩ := h.username
  -- the text is cut at its first colon, which is not one of the user
  have hcolon : ':' ∉ a.username := by
    rw [hname]
    exact fun hm => (plain_of_kept (isKept_of_mem_escaped hm)).2 (by decide)
  have hsame : Percent.encode Escape.inUserinfo a.username = a.username := by
    rw [hname, escaped_escaped]
  cases hpassword : a.password with
  | none =>
      have htext : a.userText.getD [] = a.username := by
        rw [Authority.userText, hpassword]
        cases a.username <;> rfl
      rw [htext, credentials, Split.once?_of_not_mem hcolon]
      dsimp only
      rw [hsame]
  | some p =>
      obtain ⟨cs, hne, rfl⟩ := h.password p hpassword
      have htext : a.userText.getD [] = a.username ++ ':' ::
          Percent.encode Escape.inUserinfo cs := by
        rw [Authority.userText, hpassword]
        cases a.username <;> rfl
      obtain ⟨c, rest, hrest⟩ := List.exists_cons_of_ne_nil
        (Percent.encode_ne_nil Escape.inUserinfo hne)
      rw [htext, credentials, Split.once?_append_sep hcolon, hrest]
      dsimp only
      rw [hsame, ← hrest, escaped_escaped]

theorem mem_userText {a : Authority} {u : List Char} (hu : u ∈ a.userText) {c : Char}
    (hc : c ∈ u) : c ∈ a.username ∨ c = ':' ∨ ∃ p ∈ a.password, c ∈ p := by
  rw [Authority.userText] at hu
  split at hu
  · cases hu
  · obtain rfl := Option.some.inj hu
    exact .inl hc
  · next p hp =>
      obtain rfl := Option.some.inj hu
      rcases List.mem_append.1 hc with hname | hc
      · exact .inl hname
      · rcases List.mem_cons.1 hc with hcolon | hc
        · exact .inr (.inl hcolon)
        · exact .inr (.inr ⟨p, hp, hc⟩)

theorem plain_of_mem_userText {a : Authority} (h : a.IsEscaped) {u : List Char}
    (hu : u ∈ a.userText) {c : Char} (hc : c ∈ u) : 0x20 < c.toNat ∧ c ∉ "/\\?#".toList := by
  have hplain (hkept : IsKept Escape.inUserinfo c) : 0x20 < c.toNat ∧ c ∉ "/\\?#".toList :=
    ⟨(plain_of_kept hkept).1, fun hm =>
      (plain_of_kept hkept).2 (List.mem_append_left ":".toList hm)⟩
  rcases mem_userText hu hc with hname | rfl | ⟨p, hp, hc⟩
  · obtain ⟨name, heq⟩ := h.username
    exact hplain (isKept_of_mem_escaped (heq ▸ hname))
  · decide
  · obtain ⟨cs, -, rfl⟩ := h.password p hp
    exact hplain (isKept_of_mem_escaped hc)

/-! Paths. -/

namespace Segments

/-- Segments that are resolved are read again from their text. -/
theorem ofChars_chars {segments : List (List Char)} (h : ∀ s ∈ segments, IsResolved s)
    (hne : segments ≠ []) : ofChars true (chars segments) = segments := by
  have hsplit := pieces_chars fun s hs hslash => ((h s hs).kept _ hslash).2.1 rfl
  obtain ⟨s, rest, rfl⟩ := List.exists_cons_of_ne_nil hne
  have hkept : ∀ c ∈ s ++ chars rest, IsKept Escape.inPath c ∧ c ≠ '\\' := fun c hc =>
    Route.kept_of_mem_chars h (List.mem_cons_of_mem '/' hc)
  have hvisible : ∀ c ∈ '/' :: (s ++ chars rest), 0x20 < c.toNat := fun c hc =>
    (Route.visible_of_kept (Route.kept_of_mem_chars h hc).1).1
  have hpieces := pieces_of_kept hkept
  rw [Escape.significant_of_visible hvisible] at hpieces
  rw [chars_cons, Split.pieces_cons_sep] at hsplit
  rw [chars_cons, ofChars, hpieces, (List.cons.inj hsplit).2, resolve, walk_of_resolved h,
    List.append_nil, List.reverse_reverse]

theorem cutTail_chars {segments : List (List Char)} (h : ∀ s ∈ segments, IsResolved s) :
    cutTail (chars segments) = ⟨chars segments, none, none⟩ := by
  have hhash : '#' ∉ chars segments := fun hm =>
    (Route.visible_of_kept (Route.kept_of_mem_chars h hm).1).2.2.2 rfl
  have hquestion : '?' ∉ chars segments := fun hm =>
    (Route.visible_of_kept (Route.kept_of_mem_chars h hm).1).2.2.1 rfl
  rw [cutTail, Split.before_of_not_mem hhash, Split.before_of_not_mem hquestion,
    Split.after?_of_not_mem hquestion, Split.after?_of_not_mem hhash]

end Segments

/-! All parts together. -/

theorem givenPort_natChars {scheme : Scheme} {n : Nat}
    (h : n ≤ 65535 ∧ scheme.defaultPort? ≠ some n) :
    WebText.givenPort scheme (some (Decimal.natChars n)) = .ok (some n) := by
  rw [WebText.givenPort, WebText.readPort_digits _ fun _ => Decimal.isDigit_of_mem_natChars,
    Decimal.value_natChars, if_neg (Nat.not_lt.2 h.1),
    if_neg (not_or.2 ⟨Decimal.natChars_ne_nil n, h.2⟩)]
  rfl

/-- A text that nothing is resolved or escaped in is taken as it stands, apart from host
and port. -/
theorem WebText.parse_text (w : WebText) {segments : List (List Char)}
    (h : ∀ s ∈ segments, Segments.IsResolved s) (hne : segments ≠ [])
    (htail : w.tail = Segments.chars segments) (hvisible : ∀ c ∈ w.chars, 0x20 < c.toNat) :
    parse w.text = (Host.special w.host).bind fun host =>
      (givenPort w.scheme w.port).map fun port =>
        let (username, password) := credentials (w.user.getD [])
        ⟨w.scheme, some ⟨username, password, host, port⟩, .segments segments, none, none⟩ := by
  -- nothing is left out in front of the parser, so that it cuts where the text has its parts
  have htrim : Blank.trimBy (·.toNat ≤ 0x20) w.chars = w.chars :=
    Blank.trimBy_eq_self
      (fun c hc => decide_eq_false (Nat.not_le.2 (hvisible c (List.mem_of_mem_head? hc))))
      (fun c hc => decide_eq_false (Nat.not_le.2 (hvisible c (List.mem_of_getLast? hc))))
  have hread : Escape.significant (Blank.trimBy (·.toNat ≤ 0x20) w.text.toList) = w.chars := by
    rw [text, String.toList_ofList, htrim, Escape.significant_of_visible hvisible]
  have hspecial : w.scheme.isSpecial = true := w.isSpecial_scheme
  have hcut := Segments.cutTail_chars h
  have hpath : pathAfterAuthority w.scheme (Segments.chars segments) = .segments segments := by
    rw [pathAfterAuthority, if_neg (by simp [hspecial]), hspecial, Segments.ofChars_chars h hne]
  rw [w.parse_of_significant hread]
  simp only [parseAuthority, hspecial, w.takeWhile_authority, w.dropWhile_authority,
    w.readAuthority_authority]
  cases Host.special w.host with
  | error e => rfl
  | ok host =>
      cases givenPort w.scheme w.port with
      | error e => rfl
      | ok port =>
          simp only [Except.bind, Except.map, bind, List.nil_append, htail, hcut, hpath]
          rfl

section Written

variable {scheme : Scheme} (hweb : scheme = .http ∨ scheme = .https) {a : Authority}
  (ha : a.IsRead scheme) {segments : List (List Char)} (hne : segments ≠ [])

include ha in
theorem Authority.IsRead.isEscaped : a.IsEscaped := by
  obtain ⟨user, huser⟩ := ha.user
  exact isEscaped_of_credentials huser

def WebText.ofParts : WebText where
  scheme := scheme
  user := a.userText
  host := a.host.chars
  port := a.port.map Decimal.natChars
  tail := Segments.chars segments
  isWeb := hweb
  userPlain := fun _ hu _ hc => (plain_of_mem_userText ha.isEscaped hu hc).2
  hostText := by
    obtain ⟨text, htext⟩ := ha.host
    exact Host.isHostText_chars htext
  portDigits := by
    intro ds hds c hc
    obtain ⟨n, -, rfl⟩ := Option.map_eq_some_iff.1 hds
    exact Decimal.isDigit_of_mem_natChars hc
  tailStarts := by
    obtain ⟨s, rest, rfl⟩ := List.exists_cons_of_ne_nil hne
    intro c hc
    rw [← Option.some.inj hc]
    decide

theorem WebText.front_ofParts :
    (ofParts hweb ha hne).front = scheme.chars ++ ':' :: '/' :: '/' :: a.chars := by
  rw [front, authority, place, Authority.chars, Authority.userChars_eq]
  cases hport : a.port <;> simp [ofParts, portPart, hport]

theorem WebText.chars_ofParts :
    (ofParts hweb ha hne).chars =
      scheme.chars ++ ':' :: '/' :: '/' :: a.chars ++ Segments.chars segments := by
  rw [WebText.chars, front_ofParts]
  rfl

/-- Nothing in a text of resolved segments is left out when it is read. -/
theorem WebText.visible_ofParts (h : ∀ s ∈ segments, Segments.IsResolved s) :
    ∀ c ∈ (ofParts hweb ha hne).chars, 0x20 < c.toNat := by
  intro c hc
  rcases List.mem_append.1 hc with hfront | htail
  · rcases List.mem_append.1 hfront with hscheme | hauthority
    · exact visible_scheme _ c hscheme
    · rcases List.mem_append.1 hauthority with huser | hplace
      · cases htext : a.userText with
        | none =>
            simp only [ofParts, htext] at huser
            cases huser
        | some u =>
            simp only [ofParts, htext] at huser
            rcases List.mem_append.1 huser with hmem | hat
            · exact (plain_of_mem_userText ha.isEscaped htext hmem).1
            · rw [List.mem_singleton.1 hat]
              decide
      · exact visible_place _ hplace
  · exact (Route.visible_of_kept (Route.kept_of_mem_chars h htail).1).1

/-- Nothing but the host text decides on what is read. -/
theorem parse_ofParts (h : ∀ s ∈ segments, Segments.IsResolved s) :
    parse (WebText.ofParts hweb ha hne).text =
      (Host.special a.host.chars).map fun host =>
        ⟨scheme, some { a with host }, .segments segments, none, none⟩ := by
  have hport : WebText.givenPort scheme (a.port.map Decimal.natChars) = .ok a.port := by
    cases hport : a.port with
    | none => rfl
    | some n => exact givenPort_natChars (ha.port n hport)
  have hparse := (WebText.ofParts hweb ha hne).parse_text h hne rfl
    (WebText.visible_ofParts hweb ha hne h)
  simp only [WebText.ofParts, hport, credentials_userText ha.isEscaped] at hparse
  exact hparse

end Written

/-! A host by itself. -/

def site (host : Host) : Url :=
  ⟨.http, some ⟨[], none, host, none⟩, .segments [[]], none, none⟩

def siteText (cs : List Char) : String :=
  String.ofList ("http://".toList ++ cs ++ "/".toList)

def siteParts {cs : List Char} (h : Host.IsHostText cs) : WebText where
  scheme := .http
  user := none
  host := cs
  port := none
  tail := Segments.chars [[]]
  isWeb := .inl rfl
  userPlain := nofun
  hostText := h
  portDigits := nofun
  tailStarts := by
    intro c hc
    rw [← Option.some.inj hc]
    decide

theorem text_siteParts {cs : List Char} (h : Host.IsHostText cs) :
    (siteParts h).text = siteText cs := by
  have hscheme : "http://".toList = Scheme.http.chars ++ "://".toList := by decide
  have hslash : "/".toList = Segments.chars [[]] := by decide
  refine congrArg String.ofList ?_
  rw [hscheme, hslash]
  exact congrArg (fun host => Scheme.http.chars ++ "://".toList ++ host ++ Segments.chars [[]])
    (List.append_nil cs)

/-- The text of a site is read as far as its host is. -/
theorem parse_siteText {cs : List Char} (h : Host.IsHostText cs) :
    parse (siteText cs) = (Host.special cs).map site := by
  have hresolved : ∀ s ∈ ([[]] : List (List Char)), Segments.IsResolved s := by
    simpa using Segments.isResolved_nil
  have hvisible : ∀ c ∈ (siteParts h).chars, 0x20 < c.toNat := by
    intro c hc
    rcases List.mem_append.1 hc with hfront | htail
    · rcases List.mem_append.1 hfront with hscheme | hauthority
      · exact (siteParts h).visible_scheme c hscheme
      · exact (siteParts h).visible_place hauthority
    · rw [List.mem_singleton.1 htail]
      decide
  have hport : WebText.givenPort .http none = .ok none := rfl
  have hcredentials : credentials [] = ([], none) := rfl
  have hparse := (siteParts h).parse_text hresolved (List.cons_ne_nil _ _) rfl hvisible
  rw [text_siteParts] at hparse
  simp only [siteParts, Option.getD_none, hcredentials, hport] at hparse
  exact hparse

end Url

end AuthGateway
