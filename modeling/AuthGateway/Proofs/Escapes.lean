import AuthGateway.Proofs.Text
import AuthGateway.Route.Path

/-!
Escapes in paths. A character that a path may not hold is escaped as bytes that
it may not hold either, so that escaping a text makes no escape that would have
to be undone, nor one that has to be refused.
-/
namespace AuthGateway

namespace Percent

def IsKept (escaped : Char → Bool) (c : Char) : Prop :=
  c.toNat < 0x80 ∧ escaped c = false

instance {escaped : Char → Bool} {c : Char} : Decidable (IsKept escaped c) :=
  inferInstanceAs (Decidable (_ ∧ _))

variable {escaped : Char → Bool}

theorem encode_cons (escaped : Char → Bool) (c : Char) (cs : List Char) :
    encode escaped (c :: cs) = encodeChar escaped c ++ encode escaped cs := by
  simp [encode]

theorem encodeChar_of_kept {c : Char} (h : IsKept escaped c) : encodeChar escaped c = [c] :=
  if_pos h

theorem encodeChar_of_not_kept {c : Char} (h : ¬ IsKept escaped c) :
    encodeChar escaped c = (Utf8.encodeChar c).flatMap escape :=
  if_neg h

theorem encode_of_kept {cs : List Char} (h : ∀ c ∈ cs, IsKept escaped c) :
    encode escaped cs = cs := by
  induction cs with
  | nil => rfl
  | cons c cs ih =>
      rw [encode_cons, encodeChar_of_kept (h c List.mem_cons_self), ih fun d hd => h d (List.mem_cons_of_mem _ hd)]
      rfl

/-- An escaped text has characters that are kept, percent signs and digits. -/
theorem mem_encode_cases {cs : List Char} {c : Char} (h : c ∈ encode escaped cs) :
    (c ∈ cs ∧ IsKept escaped c) ∨ c = '%' ∨ ∃ n < 16, c = Hex.upperDigit n := by
  obtain ⟨d, hd, hc⟩ := List.mem_flatMap.1 h
  by_cases hkept : IsKept escaped d
  · rw [encodeChar_of_kept hkept] at hc
    obtain rfl := List.mem_singleton.1 hc
    exact .inl ⟨hd, hkept⟩
  · rw [encodeChar_of_not_kept hkept] at hc
    obtain ⟨b, -, hb⟩ := List.mem_flatMap.1 hc
    have hhi : b.toNat / 16 < 16 := by have := b.toNat_lt; omega
    have hlo : b.toNat % 16 < 16 := by omega
    simp only [escape, List.mem_cons, List.not_mem_nil, or_false] at hb
    rcases hb with rfl | rfl | rfl
    · exact .inr (.inl rfl)
    · exact .inr (.inr ⟨_, hhi, rfl⟩)
    · exact .inr (.inr ⟨_, hlo, rfl⟩)

theorem kept_of_mem_encode (hpercent : IsKept escaped '%')
    (hdigit : ∀ n < 16, IsKept escaped (Hex.upperDigit n)) {cs : List Char} {c : Char}
    (h : c ∈ encode escaped cs) : IsKept escaped c := by
  rcases mem_encode_cases h with ⟨-, hkept⟩ | rfl | ⟨n, hn, rfl⟩
  · exact hkept
  · exact hpercent
  · exact hdigit n hn

/-- The bytes of an escaped character are escaped characters themselves. -/
theorem not_kept_of_mem_encodeChar {c : Char} (hc : ¬ IsKept escaped c) {b : UInt8}
    (hb : b ∈ Utf8.encodeChar c) : ¬ IsKept escaped (Char.ofNat b.toNat) := by
  by_cases hascii : c.toNat < 0x80
  · rw [Utf8.encodeChar_of_ascii hascii, List.mem_singleton] at hb
    have hsame : b.toNat = c.toNat := by
      rw [hb, UInt8.toNat_ofNat']
      omega
    rw [hsame, Char.ofNat_toNat]
    exact hc
  · have hhigh : 0x80 ≤ b.toNat := by
      -- without a bound the lead byte might wrap around
      have hn : c.toNat < 0x110000 := by
        have hvalid : c.toNat < 0xD800 ∨ 0xDFFF < c.toNat ∧ c.toNat < 0x110000 := c.valid
        omega
      simp only [Utf8.encodeChar, hascii, if_false] at hb
      split at hb
      · simp only [List.mem_cons, List.not_mem_nil, or_false] at hb
        rcases hb with rfl | rfl <;> rw [UInt8.toNat_ofNat'] <;> omega
      · split at hb
        · simp only [List.mem_cons, List.not_mem_nil, or_false] at hb
          rcases hb with rfl | rfl | rfl <;> rw [UInt8.toNat_ofNat'] <;> omega
        · simp only [List.mem_cons, List.not_mem_nil, or_false] at hb
          rcases hb with rfl | rfl | rfl | rfl <;> rw [UInt8.toNat_ofNat'] <;> omega
    rintro ⟨hlow, -⟩
    rw [Utf8.toNat_ofNat_of_byte b.toNat_lt] at hlow
    omega

end Percent

namespace Route

open Percent (IsKept)
open Url.Escape (inPath)

theorem value?_upperDigit {n : Nat} (h : n < 16) : Hex.value? (Hex.upperDigit n) = some n := by
  decide +revert

theorem escaped?_escape (b : UInt8) :
    escaped? (Hex.upperDigit (b.toNat / 16)) (Hex.upperDigit (b.toNat % 16)) =
      some (Char.ofNat b.toNat) := by
  have hb := b.toNat_lt
  simp only [escaped?, value?_upperDigit (show b.toNat / 16 < 16 by omega),
    value?_upperDigit (show b.toNat % 16 < 16 by omega), Option.bind_eq_bind, Option.bind_some,
    Option.pure_def]
  rw [Nat.div_add_mod]

theorem isUnreserved_of_value? {c : Char} {v : Nat} (h : Hex.value? c = some v) :
    isUnreserved c = true := by
  have halphanumeric : Ascii.isAlphanumeric c = true := by
    simp only [Hex.value?, Char.le_def, UInt32.le_iff_toNat_le] at h
    simp only [Ascii.isAlphanumeric, Ascii.isLetter, Ascii.isLower, Ascii.isUpper, Ascii.isDigit,
      Char.le_def, UInt32.le_iff_toNat_le, Bool.or_eq_true, Bool.and_eq_true, decide_eq_true_eq]
    split at h
    · next hdigit => exact .inr hdigit
    · split at h
      · next hlower =>
          have hf : 'f'.val.toNat ≤ 'z'.val.toNat := by decide
          exact .inl (.inl ⟨hlower.1, Nat.le_trans hlower.2 hf⟩)
      · split at h
        · next hupper =>
            have hF : 'F'.val.toNat ≤ 'Z'.val.toNat := by decide
            exact .inl (.inr ⟨hupper.1, Nat.le_trans hupper.2 hF⟩)
        · cases h
  simp [isUnreserved, halphanumeric]

theorem isUnreserved_of_escaped? {hi lo c : Char} (h : escaped? hi lo = some c) :
    isUnreserved hi = true ∧ isUnreserved lo = true := by
  simp only [escaped?, Option.bind_eq_bind, Option.bind_eq_some_iff] at h
  obtain ⟨v, hv, w, hw, -⟩ := h
  exact ⟨isUnreserved_of_value? hv, isUnreserved_of_value? hw⟩

theorem ne_of_escaped? {hi lo c : Char} (h : escaped? hi lo = some c) {d : Char}
    (hd : isUnreserved d = false) : hi ≠ d ∧ lo ≠ d := by
  obtain ⟨hhi, hlo⟩ := isUnreserved_of_escaped? h
  refine ⟨?_, ?_⟩
  · rintro rfl
    simp [hd] at hhi
  · rintro rfl
    simp [hd] at hlo

/-- An escape that stays in a canonical path: neither a separator nor a character
that needs none. -/
def staysEscaped (c : Char) : Bool :=
  !isSeparator c && !isUnreserved c

def Settled (cs : List Char) : Prop :=
  ∀ hi lo c, ['%', hi, lo] <:+: cs → escaped? hi lo = some c → staysEscaped c = true

/-- Texts in which every percent sign begins an escape, of a character that may
be escaped. -/
inductive WellEscaped (ok : Char → Bool) : List Char → Prop where
  | nil : WellEscaped ok []
  | plain {c : Char} {cs : List Char} (hc : c ≠ '%') (h : WellEscaped ok cs) :
      WellEscaped ok (c :: cs)
  | escape {hi lo c : Char} {cs : List Char} (he : escaped? hi lo = some c) (hc : ok c = true)
      (h : WellEscaped ok cs) : WellEscaped ok ('%' :: hi :: lo :: cs)

variable {ok : Char → Bool} {cs ds : List Char}

theorem WellEscaped.append (h : WellEscaped ok cs) (h' : WellEscaped ok ds) :
    WellEscaped ok (cs ++ ds) := by
  induction h with
  | nil => exact h'
  | plain hc _ ih => exact .plain hc ih
  | escape he hc _ ih => exact .escape he hc ih

theorem WellEscaped.flatMap {α : Type} {xs : List α} {f : α → List Char}
    (h : ∀ x ∈ xs, WellEscaped ok (f x)) : WellEscaped ok (xs.flatMap f) := by
  induction xs with
  | nil => exact .nil
  | cons x xs ih =>
      rw [List.flatMap_cons]
      exact (h x List.mem_cons_self).append (ih fun y hy => h y (List.mem_cons_of_mem _ hy))

/-- Where every percent sign begins an escape that stays, no other escape can be found. -/
theorem WellEscaped.settled (h : WellEscaped staysEscaped cs) : Settled cs := by
  induction h with
  | nil =>
      intro hi lo c hinfix
      simp at hinfix
  | plain hc _ ih =>
      intro hi lo c hinfix he
      cases List.infix_cons_iff.1 hinfix with
      | inl hstart => exact absurd (List.cons_prefix_cons.1 hstart).1.symm hc
      | inr htail => exact ih hi lo c htail he
  | @escape hi lo c cs he hc _ ih =>
      -- an escape starts here or behind: its two digits are no percent signs
      have hne := ne_of_escaped? he (d := '%') (by decide)
      intro hi' lo' c' hinfix he'
      cases List.infix_cons_iff.1 hinfix with
      | inl hstart =>
          simp only [List.cons_prefix_cons, List.nil_prefix, and_true, true_and] at hstart
          rw [hstart.1, hstart.2, he] at he'
          exact Option.some.inj he' ▸ hc
      | inr htail =>
          cases List.infix_cons_iff.1 htail with
          | inl hstart => exact absurd (List.cons_prefix_cons.1 hstart).1.symm hne.1
          | inr htail =>
              cases List.infix_cons_iff.1 htail with
              | inl hstart => exact absurd (List.cons_prefix_cons.1 hstart).1.symm hne.2
              | inr htail => exact ih hi' lo' c' htail he'

theorem kept_of_isUnreserved {c : Char} (h : isUnreserved c = true) : IsKept inPath c := by
  have hascii : c.toNat < 128 := by
    simp only [isUnreserved, Ascii.isAlphanumeric, Ascii.isLetter, Ascii.isLower, Ascii.isUpper,
      Ascii.isDigit, Char.le_def, UInt32.le_iff_toNat_le, Bool.or_eq_true, Bool.and_eq_true,
      decide_eq_true_eq, beq_iff_eq] at h
    have hz : 'z'.val.toNat = 122 := rfl
    have hZ : 'Z'.val.toNat = 90 := rfl
    have h9 : '9'.val.toNat = 57 := rfl
    rcases h with ((((h | h) | rfl) | rfl) | rfl) | rfl
    · rw [← Char.toNat_val]
      omega
    · rw [← Char.toNat_val]
      omega
    all_goals decide
  have hall : ∀ n < 128, isUnreserved (Char.ofNat n) = true → IsKept inPath (Char.ofNat n) := by
    decide
  simpa using hall c.toNat hascii (by simpa using h)

theorem staysEscaped_of_not_kept {c : Char} (h : ¬ IsKept inPath c) : staysEscaped c = true := by
  have hunreserved : isUnreserved c = false := by
    rw [← Bool.not_eq_true]
    exact fun hc => h (kept_of_isUnreserved hc)
  have hseparator : isSeparator c = false := by
    rw [← Bool.not_eq_true]
    intro hc
    simp only [isSeparator, Bool.or_eq_true, beq_iff_eq] at hc
    rcases hc with rfl | rfl
    · exact h (by decide)
    · exact h (by decide)
  simp [staysEscaped, hunreserved, hseparator]

/-- A character is escaped as escapes of characters that have to be. -/
theorem wellEscaped_encodeChar {c : Char} (h : ¬ IsKept inPath c) :
    WellEscaped staysEscaped (Percent.encodeChar inPath c) := by
  rw [Percent.encodeChar_of_not_kept h]
  refine .flatMap fun b hb => ?_
  exact .escape (escaped?_escape b)
    (staysEscaped_of_not_kept (Percent.not_kept_of_mem_encodeChar h hb)) .nil

/-- Escaping what has to be escaped adds escapes that stay. -/
theorem WellEscaped.encode (h : WellEscaped staysEscaped cs) :
    WellEscaped staysEscaped (Percent.encode inPath cs) := by
  induction h with
  | nil => exact .nil
  | @plain c cs hc _ ih =>
      rw [Percent.encode_cons]
      by_cases hkept : IsKept inPath c
      · rw [Percent.encodeChar_of_kept hkept]
        exact .plain hc ih
      · exact (wellEscaped_encodeChar hkept).append ih
  | @escape hi lo c cs he hc _ ih =>
      obtain ⟨hhi, hlo⟩ := isUnreserved_of_escaped? he
      have hkept : ∀ d ∈ ['%', hi, lo], IsKept inPath d := by
        simp only [List.mem_cons, List.not_mem_nil, or_false]
        rintro d (rfl | rfl | rfl)
        · decide
        · exact kept_of_isUnreserved hhi
        · exact kept_of_isUnreserved hlo
      have happend : Percent.encode inPath ('%' :: hi :: lo :: cs) =
          Percent.encode inPath ['%', hi, lo] ++ Percent.encode inPath cs := by
        simp [Percent.encode]
      rw [happend, Percent.encode_of_kept hkept]
      exact .escape he hc ih

theorem exists_escape_of_not_kept {c : Char} (hc : c ∈ cs) (h : ¬ IsKept inPath c) :
    ∃ hi lo d, ['%', hi, lo] <:+: Percent.encode inPath cs ∧ escaped? hi lo = some d ∧
      ¬ IsKept inPath d := by
  obtain ⟨b, hb⟩ := List.exists_mem_of_ne_nil _ (Utf8.encodeChar_ne_nil c)
  refine ⟨_, _, _, ?_, escaped?_escape b, Percent.not_kept_of_mem_encodeChar h hb⟩
  have hchar : Percent.escape b <:+: Percent.encodeChar inPath c := by
    rw [Percent.encodeChar_of_not_kept h]
    exact List.infix_of_mem_flatten (List.mem_map_of_mem hb)
  exact hchar.trans (List.infix_of_mem_flatten (List.mem_map_of_mem hc))

end Route

end AuthGateway
