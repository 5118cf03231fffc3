import AuthGateway.Proofs.HostCase
import AuthGateway.Redirect

/-!
What is known of a return URL that is accepted, in each of the forms that readers
give it who undo its percent escapes once or twice. A form that is a text, as is
every form before it, is free of everything that misleads. A form that is no text is
not looked at, nor is what comes of it.
-/
namespace AuthGateway

namespace Utf8

/-- Bytes of ASCII stand in the bytes of a text where their characters stand in the text. -/
theorem prefix_of_prefix_encodeChars {ps cs : List Char} (hps : ∀ p ∈ ps, p.toNat < 0x80)
    (h : encodeChars ps <+: encodeChars cs) : ps <+: cs := by
  induction ps generalizing cs with
  | nil => exact List.nil_prefix
  | cons p ps ih =>
      obtain ⟨hp, hps⟩ := List.forall_mem_cons.1 hps
      rw [encodeChars_cons, encodeChar_of_ascii hp, List.singleton_append] at h
      cases cs with
      | nil => simp at h
      | cons c cs =>
          obtain ⟨b, bs, hb⟩ := List.exists_cons_of_ne_nil (encodeChar_ne_nil c)
          rw [encodeChars_cons, hb, List.cons_append, List.cons_prefix_cons] at h
          have hsame : c = p := by
            have hmem : b ∈ encodeChar c := by simp [hb]
            have hpb : b.toNat = p.toNat := by rw [← h.1, toNat_ofNat (by omega)]
            rw [← Char.toNat_inj]
            rcases toNat_of_mem_encodeChar hmem with heq | hhigh <;> omega
          have hbs : bs = [] := by
            rw [hsame, encodeChar_of_ascii hp] at hb
            exact (List.cons.inj hb).2.symm
          rw [hbs, List.nil_append] at h
          exact List.cons_prefix_cons.2 ⟨hsame.symm, ih hps h.2⟩

theorem infix_of_infix_append_high {bs hs rest : List UInt8} (hne : bs ≠ [])
    (hbs : ∀ b ∈ bs, b.toNat < 0x80) (hhs : ∀ b ∈ hs, 0x80 ≤ b.toNat) (h : bs <:+: hs ++ rest) :
    bs <:+: rest := by
  induction hs with
  | nil => exact h
  | cons b hs ih =>
      obtain ⟨hb, hhs⟩ := List.forall_mem_cons.1 hhs
      rcases List.infix_cons_iff.1 h with hstart | htail
      · obtain ⟨p, ps, rfl⟩ := List.exists_cons_of_ne_nil hne
        have hp := hbs p List.mem_cons_self
        rw [(List.cons_prefix_cons.1 hstart).1] at hp
        omega
      · exact ih hhs htail

/-- Bytes of ASCII that stand somewhere in the bytes of a text are characters of it there. -/
theorem infix_of_infix_encodeChars {ps cs : List Char} (hne : ps ≠ [])
    (hps : ∀ p ∈ ps, p.toNat < 0x80) (h : encodeChars ps <:+: encodeChars cs) : ps <:+: cs := by
  have hascii : ∀ b ∈ encodeChars ps, b.toNat < 0x80 := by
    intro b hb
    rw [encodeChars_of_ascii hps] at hb
    obtain ⟨p, hp, rfl⟩ := List.mem_map.1 hb
    have hp := hps p hp
    rw [toNat_ofNat (by omega)]
    exact hp
  have hbytes : encodeChars ps ≠ [] := by
    intro hnil
    have hlength := length_le_length_encodeChars ps
    rw [hnil] at hlength
    exact hne (List.eq_nil_of_length_eq_zero (by simpa using hlength))
  -- by induction on the text: what is found starts with its first character, or lies behind it
  induction cs with
  | nil =>
      rw [encodeChars_nil, List.infix_nil] at h
      exact absurd h hbytes
  | cons c cs ih =>
      by_cases hc : c.toNat < 0x80
      · have hcons : encodeChars (c :: cs) = UInt8.ofNat c.toNat :: encodeChars cs := by
          rw [encodeChars_cons, encodeChar_of_ascii hc, List.singleton_append]
        rw [hcons] at h
        rcases List.infix_cons_iff.1 h with hstart | htail
        · rw [← hcons] at hstart
          exact (prefix_of_prefix_encodeChars hps hstart).isInfix
        · exact List.infix_cons_iff.2 (.inr (ih htail))
      · have hhigh : ∀ b ∈ encodeChar c, 0x80 ≤ b.toNat := by
          intro b hb
          rcases toNat_of_mem_encodeChar hb with heq | hhigh <;> omega
        -- none of the bytes of this character can be a part of what is found
        rw [encodeChars_cons] at h
        exact List.infix_cons_iff.2
          (.inr (ih (infix_of_infix_append_high hbytes hascii hhigh h)))

end Utf8

namespace Redirect

open Utf8 (lowerByte)

/-- A URL in bytes, after so many rounds of undoing escapes. -/
def level (url : String) : Nat → List UInt8
  | 0 => Utf8.encode url
  | n + 1 => Percent.decode (level url n)

/-- A round is reached if what stands there is a text, as it is before every round. -/
def IsReached (url : String) (n : Nat) : Prop :=
  ∀ m ≤ n, ∃ s, level url m = Utf8.encode s

/-- Bytes that mislead no reader: they do not climb, are visible, and name none of the
schemes, in any case of the letters. -/
structure IsClean (bytes : List UInt8) : Prop where
  noClimb : ¬ Utf8.encode ".." <:+: bytes
  visible : ∀ b ∈ bytes, 0x20 ≤ b.toNat ∧ b ≠ 0x7F ∧ b ≠ 0x5C
  noScheme : ∀ s ∈ ["javascript:", "vbscript:", "data:", "file:", "ftp:"],
    ¬ Utf8.encode s <:+: bytes.map lowerByte

theorem occurs_iff {part cs : List Char} : occurs part cs = true ↔ part <:+: cs := by
  induction cs with
  | nil => simp [occurs]
  | cons c cs ih => simp [occurs, ih, List.infix_cons_iff]

theorem isSuspiciousChar_of_byte {c : Char} (h : c.toNat < 0x20 ∨ c.toNat = 0x7F ∨ c.toNat = 0x5C) :
    isSuspiciousChar c = true := by
  have hbackslash : c.toNat = 0x5C → c = '\\' := fun hc => Char.toNat_inj.1 hc
  simp only [isSuspiciousChar, Bool.or_eq_true, Bool.and_eq_true, decide_eq_true_eq, beq_iff_eq]
  rcases h with hlow | hdelete | hc
  · omega
  · omega
  · simp [hbackslash hc]

/-- A text that is not suspicious is clean in bytes. -/
theorem isClean_of_not_suspicious {s : String} (h : isSuspicious s.toList = false) :
    IsClean (Utf8.encode s) := by
  simp only [isSuspicious, Bool.or_eq_false_iff] at h
  obtain ⟨⟨⟨hclimb, hchars⟩, hparts⟩, -⟩ := h
  refine ⟨fun hinfix => ?_, fun b hb => ?_, fun t ht hinfix => ?_⟩
  · have hchars := Utf8.infix_of_infix_encodeChars (by decide) (by simp) hinfix
    rw [← Bool.not_eq_true, occurs_iff] at hclimb
    exact hclimb hchars
  · have hbad : ¬ (b.toNat < 0x20 ∨ b.toNat = 0x7F ∨ b.toNat = 0x5C) := by
      intro hbad
      -- a byte of ASCII is a character of the text, which was looked at
      have hc := Utf8.mem_of_mem_encodeChars (by omega) hb
      have hsuspicious := isSuspiciousChar_of_byte (c := Char.ofNat b.toNat)
        (by rwa [Utf8.toNat_ofNat_of_byte b.toNat_lt])
      rw [List.any_eq_false] at hchars
      exact hchars _ hc hsuspicious
    refine ⟨by omega, ?_, ?_⟩
    · rintro rfl
      exact hbad (by decide)
    · rintro rfl
      exact hbad (by decide)
  · have hascii : ∀ t ∈ dangerousSchemes, t.toList ≠ [] ∧ ∀ p ∈ t.toList, p.toNat < 0x80 := by
      simp [dangerousSchemes]
    rw [Utf8.encode, Utf8.encode, ← Utf8.encodeChars_map_lowerChar] at hinfix
    have hoccurs := Utf8.infix_of_infix_encodeChars (hascii t ht).1 (hascii t ht).2 hinfix
    rw [List.any_eq_false] at hparts
    exact hparts t (List.mem_append_right _ ht) (occurs_iff.2 hoccurs)

def textAt? (url : String) : Nat → Option String
  | 0 => some url
  | n + 1 => (textAt? url n).bind Percent.decodeText?

theorem isReached_succ {url : String} {n : Nat} :
    IsReached url (n + 1) ↔ IsReached url n ∧ ∃ s, level url (n + 1) = Utf8.encode s := by
  constructor
  · exact fun h => ⟨fun m hm => h m (Nat.le_succ_of_le hm), h (n + 1) (Nat.le_refl _)⟩
  · rintro ⟨h, hs⟩ m hm
    rcases Nat.le_succ_iff.1 hm with hle | rfl
    · exact h m hle
    · exact hs

/-- The text of a round is the one whose bytes stand there once the round is reached. -/
theorem textAt?_eq_some_iff {url s : String} {n : Nat} :
    textAt? url n = some s ↔ IsReached url n ∧ level url n = Utf8.encode s := by
  induction n generalizing s with
  | zero =>
      rw [textAt?, Option.some.injEq, level, Utf8.encode_inj]
      refine ⟨fun h => ⟨fun m hm => ⟨url, ?_⟩, h⟩, fun h => h.2⟩
      rw [Nat.le_zero.1 hm, level]
  | succ n ih =>
      simp only [textAt?, Option.bind_eq_some_iff, ih, isReached_succ, Percent.decodeText?,
        Utf8.decode?_eq_some_iff]
      constructor
      · rintro ⟨t, ⟨hreached, ht⟩, hs⟩
        have hlevel : level url (n + 1) = Utf8.encode s := by rw [level, ht, hs]
        exact ⟨⟨hreached, s, hlevel⟩, hlevel⟩
      · rintro ⟨⟨hreached, -⟩, hs⟩
        obtain ⟨t, ht⟩ := hreached n (Nat.le_refl n)
        exact ⟨t, ⟨hreached, ht⟩, by rw [← ht, ← hs, level]⟩

theorem variants_eq (url : String) : variants url = [0, 1, 2].filterMap (textAt? url) := by
  rw [variants]
  cases h : Percent.decodeText? url with
  | none => simp [h, textAt?]
  | some once =>
      cases h' : Percent.decodeText? once with
      | none => simp [h, h', textAt?]
      | some twice => simp [h, h', textAt?]

/-- The forms that are looked at are the texts of the rounds that are reached. -/
theorem mem_variants_iff {url s : String} :
    s ∈ variants url ↔ ∃ n ≤ 2, IsReached url n ∧ level url n = Utf8.encode s := by
  have hrounds (n : Nat) : n ∈ [0, 1, 2] ↔ n ≤ 2 := by
    simp
    omega
  simp only [variants_eq, List.mem_filterMap, hrounds, textAt?_eq_some_iff]

structure Passes (url : String) (hosts : List String) (u : Url) : Prop where
  short : Utf8.size url ≤ 2048
  /-- Rounds that are not reached do not matter. -/
  unsuspicious : ∀ n ≤ 2, IsReached url n → ∀ s, level url n = Utf8.encode s →
    isSuspicious s.toList = false
  parsed : Url.parse url = .ok u
  secure : u.scheme = .https
  anonymous : u.hasCredentials = false
  allowed : ∃ allowed ∈ hosts, Ascii.sameIgnoringCase allowed (u.hostText?.getD "") = true

theorem unsuspicious_iff {url : String} :
    ((variants url).any fun v => isSuspicious v.toList) = false ↔
      ∀ n ≤ 2, IsReached url n → ∀ s, level url n = Utf8.encode s →
        isSuspicious s.toList = false := by
  simp only [List.any_eq_false, mem_variants_iff, Bool.not_eq_true]
  constructor
  · exact fun h n hn hreached s hs => h s ⟨n, hn, hreached, hs⟩
  · rintro h s ⟨n, hn, hreached, hs⟩
    exact h n hn hreached s hs

/-- A URL is accepted exactly if it passes. -/
theorem validate_eq_ok_iff {url : String} {hosts : List String} {u : Url} :
    validate url hosts = .ok u ↔ Passes url hosts u := by
  have hhost : (hosts.any fun allowed =>
        Ascii.sameIgnoringCase allowed (Ascii.lower (u.hostText?.getD ""))) = true ↔
      ∃ allowed ∈ hosts, Ascii.sameIgnoringCase allowed (u.hostText?.getD "") = true := by
    simp [List.any_eq_true, Ascii.sameIgnoringCase]
  rw [validate]
  constructor
  -- each check stands inside the one in front of it
  · intro h
    split at h
    · cases h
    · next hsize =>
        split at h
        · cases h
        · next hsuspicious =>
            cases hparse : Url.parse url with
            | error e =>
                rw [hparse] at h
                cases h
            | ok v =>
                rw [hparse] at h
                dsimp only at h
                split at h
                · cases h
                · next hscheme =>
                    split at h
                    · cases h
                    · next hcredentials =>
                        split at h
                        · next hallowed =>
                            cases h
                            exact ⟨Nat.not_lt.1 hsize,
                              unsuspicious_iff.1 (Bool.eq_false_iff.2 hsuspicious), hparse,
                              Decidable.not_not.1 hscheme, Bool.eq_false_iff.2 hcredentials,
                              hhost.1 hallowed⟩
                        · cases h
  · intro h
    have hsize : ¬ maxLength < Utf8.size url := Nat.not_lt.2 h.short
    simp only [hsize, unsuspicious_iff.2 h.unsuspicious, h.parsed, h.secure, h.anonymous,
      hhost.2 h.allowed, ne_eq, not_true_eq_false, Bool.false_eq_true, ↓reduceIte]

/-- What is accepted is clean as it stands, and after one and after two rounds of
undoing escapes as long as each round leaves a text. -/
theorem accepted_is_clean_where_text {url : String} {hosts : List String} {u : Url}
    (h : validate url hosts = .ok u) :
    IsClean (Utf8.encode url) ∧ ∀ n ≤ 2, IsReached url n → IsClean (level url n) := by
  have hpasses := validate_eq_ok_iff.1 h
  have hclean : ∀ n ≤ 2, IsReached url n → IsClean (level url n) := by
    intro n hn hreached
    obtain ⟨s, hs⟩ := hreached n (Nat.le_refl n)
    rw [hs]
    exact isClean_of_not_suspicious (hpasses.unsuspicious n hn hreached s hs)
  refine ⟨hclean 0 (by decide) fun m hm => ⟨url, ?_⟩, hclean⟩
  rw [Nat.le_zero.1 hm, level]

/-- A letter that is escaped twice is a text in each round. -/
theorem twice_escaped_is_clean :
    ∃ u, validate "https://[::1]/%2541" ["[::1]"] = .ok u ∧
      ∀ n ≤ 2, IsClean (level "https://[::1]/%2541" n) := by
  have haccepted : (validate "https://[::1]/%2541" ["[::1]"]).isOk = true := by
    decide +kernel
  have hreached : ∀ n ≤ 2, IsReached "https://[::1]/%2541" n := by
    have hone : level "https://[::1]/%2541" 1 = Utf8.encode "https://[::1]/%41" := by
      decide +kernel
    have htwo : level "https://[::1]/%2541" 2 = Utf8.encode "https://[::1]/A" := by
      decide +kernel
    intro n hn m hm
    match m, Nat.le_trans hm hn with
    | 0, _ => exact ⟨_, rfl⟩
    | 1, _ => exact ⟨_, hone⟩
    | 2, _ => exact ⟨_, htwo⟩
  cases h : validate "https://[::1]/%2541" ["[::1]"] with
  | ok u => exact ⟨u, rfl, fun n hn => (accepted_is_clean_where_text h).2 n hn (hreached n hn)⟩
  | error e =>
      rw [h] at haccepted
      cases haccepted

/-- One byte that is no text hides all the escapes of its URL: here two dots that
climb are let pass behind it. -/
theorem escapes_hide_behind_no_text :
    ¬ ∀ (url : String) (hosts : List String) (u : Url), validate url hosts = .ok u →
      ∀ n ≤ 2, IsClean (level url n) := by
  intro hall
  have haccepted : (validate "https://[::1]/%ff%2e%2e" ["[::1]"]).isOk = true := by
    decide +kernel
  have hclimbs : Utf8.encode ".." <:+: level "https://[::1]/%ff%2e%2e" 1 := by
    refine ⟨(level "https://[::1]/%ff%2e%2e" 1).take 15, [], ?_⟩
    decide +kernel
  cases h : validate "https://[::1]/%ff%2e%2e" ["[::1]"] with
  | ok u => exact (hall _ _ u h 1 (by decide)).noClimb hclimbs
  | error e =>
      rw [h] at haccepted
      cases haccepted

end Redirect

end AuthGateway
