import AuthGateway.Proofs.Configuration
import AuthGateway.Proofs.WebText

/-!
URLs with http or https as they are written. A URL that was read has the host that
was read, so that its text has this host between the slashes and the port or path,
and a path that starts with a slash. Nothing else stands where a reader looks for
the host.
-/
namespace AuthGateway

open Gateway (bind_eq_ok)

namespace Url

namespace Segments

theorem enter_last_ne_nil (done : List (List Char)) (s : List Char) : enter done s true ≠ [] := by
  unfold enter
  split
  · exact List.cons_ne_nil _ _
  · split
    · exact List.cons_ne_nil _ _
    · exact List.cons_ne_nil _ _

theorem walk_ne_nil {ps : List (List Char)} (hne : ps ≠ []) (done : List (List Char)) :
    walk done ps ≠ [] := by
  induction ps generalizing done with
  | nil => exact absurd rfl hne
  | cons s rest ih =>
      rw [walk]
      cases rest with
      | nil => exact enter_last_ne_nil done s
      | cons t rest => exact ih (List.cons_ne_nil t rest) _

theorem ofChars_ne_nil (special : Bool) (cs : List Char) : ofChars special cs ≠ [] := by
  have hpieces : pieces special cs ≠ [] := by
    unfold pieces
    split
    · exact Split.pieces_ne_nil _ _
    · exact Split.pieces_ne_nil _ _
  rw [ofChars, resolve, ne_eq, List.reverse_eq_nil_iff]
  exact walk_ne_nil hpieces []

end Segments

variable {s : String} {u : Url} {scheme : Scheme} {cs : List Char}

/-! The scheme of a URL tells by which rule it was read. -/

theorem scheme_of_parseAuthority (h : parseAuthority scheme cs = .ok u) : u.scheme = scheme := by
  simp only [parseAuthority, bind_eq_ok] at h
  obtain ⟨_, -, h⟩ := h
  rw [← Except.ok.inj h]
  rfl

theorem scheme_of_parseRootless (scheme : Scheme) (cs : List Char) :
    (parseRootless scheme cs).scheme = scheme := by
  unfold parseRootless
  dsimp only
  split <;> rfl

theorem scheme_of_hostUrl {hostText behind : List Char} (h : hostUrl hostText behind = .ok u) :
    u.scheme = .file := by
  have hread (host : Host) : ∀ v, (if host = .domain [] ∨ host = .domain "localhost".toList then
      .ok (fileUrl (.domain []) (FilePath.ofRootedChars (cutTail behind).path) (cutTail behind))
      else .ok (fileUrl host (FilePath.ofChars (cutTail behind).path) (cutTail behind)) :
        Except ParseError Url) = .ok v → v.scheme = .file := by
    intro v hv
    split at hv
    · rw [← Except.ok.inj hv]
      rfl
    · rw [← Except.ok.inj hv]
      rfl
  unfold hostUrl at h
  split at h
  · exact hread (.domain []) u h
  · obtain ⟨host, -, h⟩ := bind_eq_ok.1 h
    exact hread host u h

theorem scheme_of_parseFile (h : parseFile cs = .ok u) : u.scheme = .file := by
  unfold parseFile at h
  dsimp only at h
  split at h
  · split at h
    · rw [← Except.ok.inj h]
      rfl
    · split at h
      · rw [← Except.ok.inj h]
        rfl
      · exact scheme_of_hostUrl h
  · rw [← Except.ok.inj h]
    rfl

theorem exists_parseAuthority_of_afterScheme (h : parseAfterScheme scheme cs = .ok u)
    (hweb : u.scheme = .http ∨ u.scheme = .https) :
    ∃ cs, parseAuthority u.scheme cs = .ok u := by
  unfold parseAfterScheme at h
  split at h
  · split at h
    · rw [scheme_of_parseAuthority h] at hweb
      simp at hweb
    · rw [← Except.ok.inj h, scheme_of_parseRootless] at hweb
      simp at hweb
  · exact ⟨_, by rw [scheme_of_parseAuthority h]; exact h⟩

theorem exists_parseAuthority (h : parse s = .ok u) (hweb : u.scheme = .http ∨ u.scheme = .https) :
    ∃ cs, parseAuthority u.scheme cs = .ok u := by
  unfold parse at h
  dsimp only at h
  split at h
  · cases h
  · split at h
    · have := scheme_of_parseFile h
      simp [this] at hweb
    · exact exists_parseAuthority_of_afterScheme h hweb

/-! What was read of an authority and of a path. -/

/-- An authority as it is read: user and password are escaped, the host is one that a
text stands for, and the port is one that the scheme does not imply. -/
structure Authority.IsRead (scheme : Scheme) (a : Authority) : Prop where
  user : ∃ user, credentials user = (a.username, a.password)
  host : ∃ text, Host.special text = .ok a.host
  port : ∀ n ∈ a.port, n ≤ 65535 ∧ scheme.defaultPort? ≠ some n

/-- A port that is kept fits, and is not the one that the scheme implies. -/
theorem port_of_readPort {p : Option Nat} {left : List Char}
    (h : readPort scheme cs = .ok (p, left)) :
    ∀ n ∈ p, n ≤ 65535 ∧ scheme.defaultPort? ≠ some n := by
  simp only [readPort] at h
  split at h
  · cases h
  · next hsmall =>
      cases h
      intro n hn
      split at hn
      · cases hn
      · next hgiven =>
          rw [← Option.some.inj hn]
          exact ⟨Nat.not_lt.1 fun hlarge => hsmall (.inl hlarge),
            fun himplied => hgiven (.inr himplied)⟩

/-- Host and port are read each by its own rule. -/
theorem parts_of_readHostAndPort {host : Host} {p : Option Nat} {left : List Char}
    (hspecial : scheme.isSpecial = true) (h : readHostAndPort scheme cs = .ok (host, p, left)) :
    (∃ text, Host.special text = .ok host) ∧
      ∀ n ∈ p, n ≤ 65535 ∧ scheme.defaultPort? ≠ some n := by
  simp only [readHostAndPort, hspecial, if_true] at h
  split at h
  · cases h
  · obtain ⟨found, hfound, h⟩ := bind_eq_ok.1 h
    split at h
    · cases h
      exact ⟨⟨_, hfound⟩, fun n hn => by cases hn⟩
    · split at h
      · cases h
      · obtain ⟨⟨_, _⟩, hport, h⟩ := bind_eq_ok.1 h
        cases h
        exact ⟨⟨_, hfound⟩, port_of_readPort hport⟩

theorem isRead_of_readAuthority {behind left : List Char} {a : Authority}
    (hspecial : scheme.isSpecial = true) (h : readAuthority scheme cs behind = .ok (a, left)) :
    a.IsRead scheme := by
  simp only [readAuthority] at h
  split at h
  · cases h
  · obtain ⟨⟨host, p, rest⟩, hread, h⟩ := bind_eq_ok.1 h
    obtain ⟨hhost, hport⟩ := parts_of_readHostAndPort hspecial hread
    split at h
    · cases h
    · cases h
      exact ⟨⟨_, rfl⟩, hhost, hport⟩

theorem parts_of_parseAuthority (hspecial : scheme.isSpecial = true)
    (h : parseAuthority scheme cs = .ok u) :
    ∃ (a : Authority) (text : List Char), a.IsRead scheme ∧ u.authority = some a ∧
      u.path = .segments (Segments.ofChars true text) := by
  simp only [parseAuthority] at h
  obtain ⟨⟨a, left⟩, hread, h⟩ := bind_eq_ok.1 h
  refine ⟨a, (cutTail (left ++ cs.dropWhile fun c => !isAuthorityEnd scheme.isSpecial c)).path,
    isRead_of_readAuthority hspecial hread, ?_, ?_⟩
  · rw [← Except.ok.inj h]
    rfl
  · rw [← Except.ok.inj h]
    simp [withTail, pathAfterAuthority, hspecial]

/-- A URL with http or https has an authority that was read, and a path of segments. -/
theorem parts_of_parse (h : parse s = .ok u) (hweb : u.scheme = .http ∨ u.scheme = .https) :
    ∃ (a : Authority) (text : List Char), a.IsRead u.scheme ∧ u.authority = some a ∧
      u.path = .segments (Segments.ofChars true text) := by
  have hspecial : u.scheme.isSpecial = true := by
    rcases hweb with hs | hs <;> rw [hs] <;> rfl
  obtain ⟨cs, hread⟩ := exists_parseAuthority h hweb
  exact parts_of_parseAuthority hspecial hread

/-! The text. -/

theorem pathChars_of_segments {a : Authority} {segments : List (List Char)}
    (ha : u.authority = some a) (hpath : u.path = .segments segments) :
    u.pathChars = Segments.chars segments := by
  rw [pathChars, ha, hpath]
  rfl

theorem userChars_of_not_hasCredentials {a : Authority} (ha : u.authority = some a)
    (h : u.hasCredentials = false) : a.userChars = [] := by
  simp only [hasCredentials, ha, Bool.or_eq_false_iff, Bool.not_eq_false', List.isEmpty_iff,
    Option.isSome_eq_false_iff, Option.isNone_iff_eq_none] at h
  rw [Authority.userChars, h.1, h.2]

/-- A URL without credentials is written with its host between the slashes and the
port or the path. -/
theorem exists_webText (h : parse s = .ok u) (hweb : u.scheme = .http ∨ u.scheme = .https)
    (hc : u.hasCredentials = false) :
    ∃ w : WebText, u.render = w.text ∧ w.scheme = u.scheme ∧ w.user = none ∧
      u.hostText? = some (String.ofList w.host) ∧ w.tail.head? = some '/' := by
  obtain ⟨a, text, hread, ha, hpath⟩ := parts_of_parse h hweb
  obtain ⟨_, hspecial⟩ := hread.host
  have hhost := Host.isHostText_chars hspecial
  obtain ⟨first, rest, hsegments⟩ := List.exists_cons_of_ne_nil (Segments.ofChars_ne_nil true text)
  have htail : (u.pathChars ++ u.tailChars).head? = some '/' := by
    rw [pathChars_of_segments ha hpath, hsegments]
    rfl
  have hport : ∀ ds ∈ a.port.map Decimal.natChars, ∀ c ∈ ds, Ascii.isDigit c = true := by
    intro ds hds c hc
    obtain ⟨n, -, rfl⟩ := Option.map_eq_some_iff.1 hds
    exact (Ascii.isDigit_iff c).2 (Decimal.toNat_of_mem_natChars hc)
  -- the text has the parts of the URL, each of them as it is written
  refine ⟨⟨u.scheme, none, a.host.chars, a.port.map Decimal.natChars, u.pathChars ++ u.tailChars,
    hweb, nofun, hhost, hport, ?_⟩, ?_, rfl, rfl, ?_, htail⟩
  · intro c hc
    rw [htail] at hc
    rw [← Option.some.inj hc]
    decide
  · rw [render, chars, originChars, ha, WebText.text, WebText.chars, WebText.front,
      WebText.authority, WebText.place]
    dsimp only
    rw [Authority.chars, userChars_of_not_hasCredentials ha hc]
    cases a.port with
    | none => simp [WebText.userPart, WebText.portPart]
    | some n => simp [WebText.userPart, WebText.portPart]
  · rw [hostText?, ha]
    exact if_neg (by simpa using hhost.nonempty)

end Url

end AuthGateway
