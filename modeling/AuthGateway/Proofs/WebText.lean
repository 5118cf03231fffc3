import AuthGateway.Proofs.HostCase
import AuthGateway.Proofs.HostText
import AuthGateway.Url.Parse

/-!
URLs with http or https as texts. Such a text has a scheme, perhaps a user, a host,
perhaps a port, and a tail of path, query and fragment. Whatever such a text says,
the origin of what is read depends only on the scheme, the host in any case of its
letters, and the port or the one that the scheme implies.
-/
namespace AuthGateway

namespace Url

namespace Escape

theorem isIgnored_of_visible {c : Char} (h : 0x20 < c.toNat) : isIgnored c = false := by
  rw [← Bool.not_eq_true]
  intro hignored
  have hblank : c = '\t' ∨ c = '\n' ∨ c = '\r' := by
    simpa [isIgnored, or_assoc] using hignored
  rcases hblank with rfl | rfl | rfl <;> exact absurd h (by decide)

theorem significant_append (cs ds : List Char) :
    significant (cs ++ ds) = significant cs ++ significant ds :=
  List.filter_append cs ds

theorem mem_of_mem_significant {cs : List Char} {c : Char} (h : c ∈ significant cs) : c ∈ cs :=
  (List.mem_filter.1 h).1

theorem significant_of_visible {cs : List Char} (h : ∀ c ∈ cs, 0x20 < c.toNat) :
    significant cs = cs := by
  refine List.filter_eq_self.2 fun c hc => ?_
  rw [isIgnored_of_visible (h c hc)]
  rfl

end Escape

/-- Scheme, host, and port or default port. -/
def origin (u : Url) : Scheme × Option String × Option Nat :=
  (u.scheme, u.hostText?, u.port?)

/-- An http or https URL as a text, by its parts. -/
structure WebText where
  scheme : Scheme
  user : Option (List Char)
  host : List Char
  port : Option (List Char)
  /-- Path, query and fragment. -/
  tail : List Char
  isWeb : scheme = .http ∨ scheme = .https
  userPlain : ∀ u ∈ user, ∀ c ∈ u, c ∉ "/\\?#".toList
  hostText : Host.IsHostText host
  portDigits : ∀ ds ∈ port, ∀ c ∈ ds, Ascii.isDigit c = true
  tailStarts : ∀ c ∈ tail.head?, c ∈ "/\\?#".toList

namespace WebText

def userPart : Option (List Char) → List Char
  | none => []
  | some u => u ++ ['@']

def portPart : Option (List Char) → List Char
  | none => []
  | some ds => ':' :: ds

def place (w : WebText) : List Char :=
  w.host ++ portPart w.port

def authority (w : WebText) : List Char :=
  userPart w.user ++ w.place

def front (w : WebText) : List Char :=
  w.scheme.chars ++ "://".toList ++ w.authority

def chars (w : WebText) : List Char :=
  w.front ++ w.tail

def text (w : WebText) : String :=
  String.ofList w.chars

/-- The port, or the one that the scheme implies if no digits are given. -/
def effectivePort? (w : WebText) : Option Nat :=
  match w.port with
  | none => w.scheme.defaultPort?
  | some [] => w.scheme.defaultPort?
  | some ds => some (Decimal.value ds)

structure SameOrigin (w w' : WebText) : Prop where
  scheme : w.scheme = w'.scheme
  host : w.host.map Ascii.lowerChar = w'.host.map Ascii.lowerChar
  port : w.effectivePort? = w'.effectivePort?

variable (w : WebText)

theorem visible_scheme : ∀ c ∈ w.scheme.chars ++ "://".toList, 0x20 < c.toNat := by
  rcases w.isWeb with h | h
  · simp [h, Scheme.chars]
  · simp [h, Scheme.chars]

theorem plain_of_mem_place {c : Char} (h : c ∈ w.place) :
    0x20 < c.toNat ∧ c ∉ "/\\?#@".toList := by
  rcases List.mem_append.1 h with h | h
  · exact w.hostText.visible c h
  · cases hport : w.port with
    | none =>
        rw [hport] at h
        cases h
    | some ds =>
        rw [hport] at h
        rcases List.mem_cons.1 h with rfl | h
        · decide
        · have hdigit := (Ascii.isDigit_iff c).1 (w.portDigits ds hport c h)
          have hplain := Host.plain_of_isDigitCode (.inl hdigit)
          exact ⟨hplain.1, fun hm => hplain.2 (List.mem_append_left ":[]".toList hm)⟩

theorem visible_place {c : Char} (h : c ∈ w.place) : 0x20 < c.toNat :=
  (w.plain_of_mem_place h).1

theorem place_ne_nil : w.place ≠ [] :=
  List.append_ne_nil_of_left_ne_nil w.hostText.nonempty _

theorem authority_ne_nil : w.authority ≠ [] :=
  List.append_ne_nil_of_right_ne_nil _ w.place_ne_nil

theorem front_ne_nil : w.front ≠ [] :=
  List.append_ne_nil_of_right_ne_nil _ w.authority_ne_nil

theorem visible_head : ∀ c ∈ w.front.head?, 0x20 < c.toNat := by
  intro c hc
  apply w.visible_scheme
  have hne : w.scheme.chars ++ "://".toList ≠ [] := by simp
  obtain ⟨d, rest, hd⟩ := List.exists_cons_of_ne_nil hne
  rw [front, hd] at hc
  rw [hd, Option.some.inj hc]
  exact List.mem_cons_self

theorem mem_place_of_last {c : Char} (h : c ∈ w.front.getLast?) : c ∈ w.place := by
  obtain ⟨last, hsome⟩ := Option.isSome_iff_exists.1 (List.getLast?_isSome.2 w.place_ne_nil)
  rw [front, authority, ← List.append_assoc, List.getLast?_append, hsome] at h
  exact List.mem_of_getLast? (hsome.trans h)

theorem visible_last : ∀ c ∈ w.front.getLast?, 0x20 < c.toNat :=
  fun _ hc => w.visible_place (w.mem_place_of_last hc)

theorem significant_userPart (user : Option (List Char)) :
    Escape.significant (userPart user) = userPart (user.map Escape.significant) := by
  cases user with
  | none => rfl
  | some u => exact List.filter_append u ['@']

/-- The part of a text that is read is such a text again, with the same origin. -/
theorem exists_significant : ∃ w' : WebText, w.SameOrigin w' ∧
    Escape.significant (Blank.trimBy (·.toNat ≤ 0x20) w.chars) = w'.chars := by
  obtain ⟨rest, ⟨behind, hbehind⟩, htrim⟩ := Blank.exists_trimBy_append (p := (·.toNat ≤ 0x20))
    w.front_ne_nil
    (fun c hc => decide_eq_false (Nat.not_le.2 (w.visible_head c hc)))
    (fun c hc => decide_eq_false (Nat.not_le.2 (w.visible_last c hc))) w.tail
  -- what is left out may be at the end of the tail, but the tail still starts as it did
  have htail : ∀ c ∈ (Escape.significant rest).head?, c ∈ "/\\?#".toList := by
    cases rest with
    | nil => exact fun c hc => nomatch hc
    | cons d rest =>
        have hd : d ∈ "/\\?#".toList := w.tailStarts d (by rw [← hbehind]; rfl)
        have hvisible : ∀ e ∈ "/\\?#".toList, Escape.isIgnored e = false := by simp [Escape.isIgnored]
        intro c hc
        rw [Escape.significant, List.filter_cons_of_pos (by simp [hvisible d hd])] at hc
        exact Option.some.inj hc ▸ hd
  have huser : ∀ u ∈ w.user.map Escape.significant, ∀ c ∈ u, c ∉ "/\\?#".toList := by
    intro u hu c hc
    obtain ⟨u', hu', rfl⟩ := Option.map_eq_some_iff.1 hu
    exact w.userPlain u' hu' c (Escape.mem_of_mem_significant hc)
  refine ⟨⟨w.scheme, w.user.map Escape.significant, w.host, w.port, Escape.significant rest,
    w.isWeb, huser, w.hostText, w.portDigits, htail⟩, ⟨rfl, rfl, rfl⟩, ?_⟩
  have hscheme := Escape.significant_of_visible w.visible_scheme
  have hplace := Escape.significant_of_visible fun c hc => w.visible_place hc
  rw [chars, htrim, front, Escape.significant_append _ rest,
    Escape.significant_append _ w.authority, hscheme, authority,
    Escape.significant_append _ w.place, hplace, significant_userPart]
  rfl

/-! How such a text is cut. -/

theorem not_isAuthorityEnd {c : Char} (h : c ∉ "/\\?#".toList) :
    isAuthorityEnd true c = false := by
  simpa [isAuthorityEnd, isSlash, and_assoc] using h

theorem not_end_of_mem_authority {c : Char} (h : c ∈ w.authority) :
    isAuthorityEnd true c = false := by
  rcases List.mem_append.1 h with h | h
  · cases huser : w.user with
    | none =>
        rw [huser] at h
        cases h
    | some u =>
        rw [huser] at h
        rcases List.mem_append.1 h with h | h
        · exact not_isAuthorityEnd (w.userPlain u huser c h)
        · rw [List.mem_singleton.1 h]
          rfl
  · exact not_isAuthorityEnd fun hm =>
      (w.plain_of_mem_place h).2 (List.mem_append_left "@".toList hm)

theorem isAuthorityEnd_of_mem_head {c : Char} (h : c ∈ w.tail.head?) :
    isAuthorityEnd true c = true := by
  simpa [isAuthorityEnd, isSlash, or_assoc] using w.tailStarts c h

theorem takeWhile_authority :
    (w.authority ++ w.tail).takeWhile (fun c => !isAuthorityEnd true c) = w.authority := by
  have htail : w.tail.takeWhile (fun c => !isAuthorityEnd true c) = [] := by
    cases ht : w.tail with
    | nil => rfl
    | cons c rest =>
        refine List.takeWhile_cons_of_neg ?_
        simp [w.isAuthorityEnd_of_mem_head (c := c) (by rw [ht]; rfl)]
  rw [List.takeWhile_append_of_pos fun c hc => by rw [w.not_end_of_mem_authority hc]; rfl, htail,
    List.append_nil]

theorem dropWhile_authority :
    (w.authority ++ w.tail).dropWhile (fun c => !isAuthorityEnd true c) = w.tail := by
  rw [List.dropWhile_append_of_pos fun c hc => by rw [w.not_end_of_mem_authority hc]; rfl]
  apply Blank.dropWhile_of_head
  intro c hc
  rw [w.isAuthorityEnd_of_mem_head hc]
  rfl

theorem cutScheme?_chars :
    cutScheme? w.chars = some (w.scheme.chars, '/' :: '/' :: (w.authority ++ w.tail)) := by
  rw [chars, front]
  rcases w.isWeb with h | h <;> rw [h] <;> rfl

theorem dropWhile_slashes :
    ('/' :: '/' :: (w.authority ++ w.tail)).dropWhile (isSlash true) = w.authority ++ w.tail := by
  rw [List.dropWhile_cons_of_pos rfl, List.dropWhile_cons_of_pos rfl]
  apply Blank.dropWhile_of_head
  intro c hc
  obtain ⟨d, rest, hd⟩ := List.exists_cons_of_ne_nil w.authority_ne_nil
  have hend := w.not_end_of_mem_authority (c := c) (by
    rw [hd] at hc ⊢
    rw [Option.some.inj hc]
    exact List.mem_cons_self)
  simp only [isAuthorityEnd, Bool.or_eq_false_iff] at hend
  exact hend.1.1

theorem parse_of_significant {s : String}
    (h : Escape.significant (Blank.trimBy (·.toNat ≤ 0x20) s.toList) = w.chars) :
    parse s = parseAuthority w.scheme (w.authority ++ w.tail) := by
  have hread : Scheme.ofChars w.scheme.chars = w.scheme := by
    rcases w.isWeb with hscheme | hscheme <;> rw [hscheme] <;> decide
  rw [parse, h, cutScheme?_chars]
  rcases w.isWeb with hscheme | hscheme <;>
    simp only [hread] <;> simp only [hscheme, parseAfterScheme, dropWhile_slashes]

theorem hostPart_of_head {rest : List Char} (h : ∀ c ∈ rest.head?, c = ':') :
    hostPart false rest = [] := by
  cases rest with
  | nil => rfl
  | cons c rest => exact if_pos ⟨h c rfl, rfl⟩

theorem hostPart_of_plain {cs rest : List Char} (h : ∀ c ∈ cs, c ∉ ":[]".toList)
    (hrest : ∀ c ∈ rest.head?, c = ':') : hostPart false (cs ++ rest) = cs := by
  induction cs with
  | nil => exact hostPart_of_head hrest
  | cons c cs ih =>
      obtain ⟨hc, hcs⟩ := List.forall_mem_cons.1 h
      have hne : c ≠ ':' ∧ c ≠ '[' ∧ c ≠ ']' := by simpa using hc
      rw [List.cons_append, hostPart, if_neg fun h => hne.1 h.1, if_neg hne.2.1, if_neg hne.2.2,
        ih hcs]

theorem hostPart_inside {inside rest : List Char} (h : ∀ c ∈ inside, c ∉ "[]".toList) :
    hostPart true (inside ++ ']' :: rest) = inside ++ ']' :: hostPart false rest := by
  induction inside with
  | nil => rfl
  | cons c inside ih =>
      obtain ⟨hc, hinside⟩ := List.forall_mem_cons.1 h
      have hne : c ≠ '[' ∧ c ≠ ']' := by simpa using hc
      rw [List.cons_append, hostPart, if_neg (by simp), if_neg hne.1, if_neg hne.2, ih hinside]
      rfl

theorem hostPart_place : hostPart false w.place = w.host := by
  have hport : ∀ c ∈ (portPart w.port).head?, c = ':' := by
    cases w.port with
    | none => exact fun c hc => nomatch hc
    | some ds => exact fun c hc => (Option.some.inj hc).symm
  rcases w.hostText.closed with hplain | ⟨inside, hhost, hinside⟩
  · exact hostPart_of_plain hplain hport
  · rw [place, hhost, List.cons_append, List.append_assoc, List.singleton_append]
    have hopen : ∀ rest, hostPart false ('[' :: rest) = '[' :: hostPart true rest :=
      fun rest => rfl
    rw [hopen, hostPart_inside hinside, hostPart_of_head hport]

theorem cutUser?_authority : cutUser? w.authority = w.user.map fun u => (u, w.place) := by
  have hplace : '@' ∉ w.place := fun hm => (w.plain_of_mem_place hm).2 (by decide)
  have hplace' : '@' ∉ w.place.reverse := fun hm => hplace (List.mem_reverse.1 hm)
  cases huser : w.user with
  | none =>
      rw [authority, huser, userPart, List.nil_append, cutUser?, Split.once?_of_not_mem hplace']
      rfl
  | some u =>
      have hreverse : w.authority.reverse = w.place.reverse ++ '@' :: u.reverse := by
        rw [authority, huser]
        simp [userPart]
      rw [cutUser?, hreverse, Split.once?_append_sep hplace']
      simp

theorem readPort_digits (scheme : Scheme) {ds : List Char}
    (h : ∀ c ∈ ds, Ascii.isDigit c = true) :
    readPort scheme ds =
      if 65535 < Decimal.value ds then .error .invalidPort
      else .ok (if ds = [] ∨ scheme.defaultPort? = some (Decimal.value ds) then none
        else some (Decimal.value ds), []) := by
  have htake : ds.takeWhile Ascii.isDigit = ds := by
    rw [← List.append_nil ds, List.takeWhile_append_of_pos h, List.takeWhile_nil, List.append_nil]
  simp [readPort, htake]

theorem isSpecial_scheme : w.scheme.isSpecial = true := by
  rcases w.isWeb with h | h <;> rw [h] <;> rfl

def givenPort (scheme : Scheme) : Option (List Char) → Except ParseError (Option Nat)
  | none => .ok none
  | some ds => (readPort scheme ds).map Prod.fst

/-- Host and port are cut where the text has them. -/
theorem readHostAndPort_place :
    readHostAndPort w.scheme w.place =
      (Host.special w.host).bind fun host =>
        (givenPort w.scheme w.port).map fun p => (host, p, []) := by
  have hdrop : w.place.drop w.host.length = portPart w.port := List.drop_left
  simp only [readHostAndPort, hostPart_place, hdrop, isSpecial_scheme, w.hostText.nonempty,
    and_false, if_false, if_true]
  cases hhost : Host.special w.host with
  | error e => rfl
  | ok host =>
      have hne : host ≠ .domain [] := by
        rintro rfl
        exact (Host.isHostText_chars hhost).nonempty rfl
      cases hport : w.port with
      | none => rfl
      | some ds =>
          have hdigits := readPort_digits w.scheme (w.portDigits ds hport)
          simp only [portPart, givenPort, hdigits]
          refine (if_neg hne).trans ?_
          split <;> rfl

/-- The authority is cut where the text has it, whatever the user is. -/
theorem readAuthority_authority :
    readAuthority w.scheme w.authority w.tail =
      (Host.special w.host).bind fun host =>
        (givenPort w.scheme w.port).map fun p =>
          (⟨(credentials (w.user.getD [])).1, (credentials (w.user.getD [])).2, host, p⟩, []) := by
  have hcut : (cutUser? w.authority).getD ([], w.authority) = (w.user.getD [], w.place) := by
    rw [cutUser?_authority]
    cases huser : w.user with
    | none => rw [authority, huser]; rfl
    | some u => rfl
  simp only [readAuthority, hcut, w.place_ne_nil, false_and, and_false, if_false,
    readHostAndPort_place]
  cases hhost : Host.special w.host with
  | error e => rfl
  | ok host =>
      have hne : host ≠ .domain [] := by
        rintro rfl
        exact (Host.isHostText_chars hhost).nonempty rfl
      cases givenPort w.scheme w.port with
      | error e => rfl
      | ok p => exact if_neg fun h => hne h.1

/-- The origin of the URL that a text stands for. Nothing but scheme, host and port
of the text is looked at. -/
def origin (w : WebText) : Except ParseError (Scheme × Option String × Option Nat) :=
  (Host.special w.host).bind fun host =>
    if 65535 < w.effectivePort?.getD 0 then .error .invalidPort
    else
      .ok (w.scheme, if host.chars.isEmpty then none else some (String.ofList host.chars),
        w.effectivePort?)

/-- Written or implied, a port is the effective one if it fits. -/
theorem givenPort_eq :
    ((givenPort w.scheme w.port).map fun p => p.orElse fun _ => w.scheme.defaultPort?) =
      if 65535 < w.effectivePort?.getD 0 then .error .invalidPort else .ok w.effectivePort? := by
  have hdefault : ¬ 65535 < w.scheme.defaultPort?.getD 0 := by
    rcases w.isWeb with h | h <;> rw [h] <;> decide
  cases hport : w.port with
  | none =>
      rw [effectivePort?, hport]
      exact (if_neg hdefault).symm
  | some ds =>
      rw [effectivePort?, hport, givenPort, readPort_digits _ (w.portDigits ds hport)]
      cases ds with
      | nil => exact (if_neg hdefault).symm
      | cons c ds =>
          simp only [Option.getD_some, List.cons_ne_nil, false_or]
          split
          · rfl
          · by_cases hsame : w.scheme.defaultPort? = some (Decimal.value (c :: ds))
            · simp [Except.map, hsame]
            · simp [Except.map, hsame]

theorem origin_parseAuthority :
    (parseAuthority w.scheme (w.authority ++ w.tail)).map Url.origin = w.origin := by
  have hread := w.readAuthority_authority
  simp only [parseAuthority, isSpecial_scheme, takeWhile_authority, dropWhile_authority, hread,
    origin]
  cases Host.special w.host with
  | error e => rfl
  | ok host =>
      let text := if host.chars.isEmpty then none else some (String.ofList host.chars)
      calc
        _ = ((givenPort w.scheme w.port).map fun p => p.orElse fun _ => w.scheme.defaultPort?).map
            fun p => (w.scheme, text, p) := by
          cases givenPort w.scheme w.port <;> rfl
        _ = _ := by
          rw [givenPort_eq]
          simp only [Except.bind]
          split <;> rfl

variable {w} {w' : WebText}

theorem SameOrigin.origin_eq (h : w.SameOrigin w') : w.origin = w'.origin := by
  rw [origin, origin, ← Host.special_map_lowerChar w.host, h.host,
    Host.special_map_lowerChar, h.scheme, h.port]

/-- All of a text but its origin makes no difference to where it leads. -/
theorem origin_parse_text (w : WebText) : (parse w.text).map Url.origin = w.origin := by
  obtain ⟨w', hsame, hread⟩ := w.exists_significant
  have htext : w.text.toList = w.chars := String.toList_ofList
  rw [w'.parse_of_significant (by rw [htext, hread]), origin_parseAuthority, hsame.origin_eq]

end WebText

end Url

end AuthGateway
