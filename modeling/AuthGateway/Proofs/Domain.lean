import AuthGateway.Proofs.Mapping
import AuthGateway.Proofs.Punycode
import AuthGateway.Url.Domain
import Mathlib.Data.Option.Basic

/-!
Domains that are read again. The ASCII form of a domain is the ASCII form of itself,
except that an encoded label may be longer than what is decoded.
-/
namespace AuthGateway

namespace Url

/-! Labels. -/

namespace Label

variable {p : List Char} {l : Label}

/-- What a label is made of: characters that are mapped and composed, and no dot. -/
structure IsPiece (p : List Char) : Prop where
  plain : ∀ c ∈ p, Mapping.IsPlain c.toNat
  composed : Composition.compose p = p
  noDot : '.' ∉ p

theorem IsPiece.isSettled (h : IsPiece p) : isSettled p = true := by
  simp [Label.isSettled, Mapping.text?_of_isPlain h.plain, h.composed]

def IsShort (ascii : List Char) : Prop :=
  mark <+: ascii → ascii.length ≤ mark.length + decodingLimit

instance (ascii : List Char) : Decidable (IsShort ascii) :=
  inferInstanceAs (Decidable (_ → _))

theorem decoded?_eq_some_iff {code text : List Char} :
    decoded? code = some text ↔ isAscii code = true ∧ code.length ≤ decodingLimit ∧
      Punycode.decode? code = some text ∧ isAscii text = false ∧ isSettled text = true := by
  simp only [decoded?, Option.bind_eq_bind, Option.bind_eq_some_iff, Option.guard_eq_some']
  simp
  grind

/-- A label is marked, or in ASCII, or else it is encoded. -/
theorem ofChars?_cases (h : ofChars? p = some l) :
    (mark <+: p ∧ l.ascii = p ∧ isAscii p = true ∧ IsShort p) ∨
      (isAscii p = true ∧ ¬ mark <+: p ∧ l = ⟨p, p⟩) ∨
      (isAscii p = false ∧ p.length ≤ encodingLimit ∧ l = ⟨p, mark ++ Punycode.encode p⟩) := by
  -- the mark is looked for first, and only then what is outside ASCII
  rw [ofChars?] at h
  split at h
  · next hmark =>
      obtain ⟨text, htext, rfl⟩ := Option.map_eq_some_iff.1 h
      obtain ⟨code, rfl⟩ := List.isPrefixOf_iff_prefix.1 hmark
      rw [List.drop_left] at htext
      obtain ⟨hascii, hlength, -⟩ := decoded?_eq_some_iff.1 htext
      refine .inl ⟨List.prefix_append _ _, rfl, ?_, fun _ => ?_⟩
      · rw [isAscii, List.all_append, ← isAscii, ← isAscii, hascii]
        decide
      · rw [List.length_append]
        omega
  · next hmark =>
      have hmark : ¬ mark <+: p := fun hp => hmark (List.isPrefixOf_iff_prefix.2 hp)
      split at h
      · next hascii => exact .inr (.inl ⟨hascii, hmark, (Option.some.inj h).symm⟩)
      · next hascii =>
          split at h
          · cases h
          · next hlength =>
              exact .inr (.inr ⟨by simpa using hascii, Nat.not_lt.1 hlength,
                (Option.some.inj h).symm⟩)

/-- A label stands in a domain as its own characters, the mark and digits. -/
theorem mem_of_mem_ascii (h : ofChars? p = some l) {c : Char} (hc : c ∈ l.ascii) :
    c.toNat < 128 ∧ (c ∈ p ∨ c ∈ mark ∨ Punycode.IsDigitChar c) := by
  have hp (hascii : isAscii p = true) (hc : c ∈ p) : c.toNat < 128 := by
    simpa using List.all_eq_true.1 hascii c hc
  rcases ofChars?_cases h with ⟨-, hsame, hascii, -⟩ | ⟨hascii, -, rfl⟩ | ⟨-, -, rfl⟩
  · rw [hsame] at hc
    exact ⟨hp hascii hc, .inl hc⟩
  · exact ⟨hp hascii hc, .inl hc⟩
  · have hmark : ∀ c ∈ mark, c.toNat < 128 := by simp [mark]
    rcases List.mem_append.1 hc with hc | hc
    · exact ⟨hmark c hc, .inr (.inl hc)⟩
    · rcases Punycode.mem_encode hc with ⟨hmem, hsmall⟩ | rfl | hdigit
      · exact ⟨hsmall, .inl hmem⟩
      · exact ⟨by decide, .inr (.inl (by decide))⟩
      · refine ⟨?_, .inr (.inr hdigit)⟩
        unfold Punycode.IsDigitChar at hdigit
        omega

/-- A label is read again unless it is too long. -/
theorem ofChars?_ascii (hp : IsPiece p) (h : ofChars? p = some l) :
    ofChars? l.ascii = if IsShort l.ascii then some l else none := by
  rcases ofChars?_cases h with ⟨-, hsame, -, hshort⟩ | ⟨-, hmark, rfl⟩ | ⟨hascii, hlength, rfl⟩
  · rw [hsame, if_pos hshort, h]
  · rw [if_pos (show IsShort p from fun hp => absurd hp hmark), h]
  · have hprefix : mark.isPrefixOf (mark ++ Punycode.encode p) = true :=
      List.isPrefixOf_iff_prefix.2 (List.prefix_append _ _)
    have hcode : isAscii (Punycode.encode p) = true := by
      refine List.all_eq_true.2 fun c hc => decide_eq_true ?_
      exact (mem_of_mem_ascii h (List.mem_append_right mark hc)).1
    -- The checks behind decoding ask what the first reading has made sure of, but for the limit.
    have hdecoded (text : List Char) : decoded? (Punycode.encode p) = some text ↔
        IsShort (mark ++ Punycode.encode p) ∧ text = p := by
      rw [decoded?_eq_some_iff, Punycode.decode?_encode hlength]
      have hshort : IsShort (mark ++ Punycode.encode p) ↔
          (Punycode.encode p).length ≤ decodingLimit := by
        rw [IsShort, List.length_append]
        exact ⟨fun h => Nat.le_of_add_le_add_left (h (List.prefix_append _ _)),
          fun h _ => Nat.add_le_add_left h _⟩
      rw [hshort]
      constructor
      · rintro ⟨-, hlimit, hsame, -⟩
        exact ⟨hlimit, (Option.some.inj hsame).symm⟩
      · rintro ⟨hlimit, rfl⟩
        exact ⟨hcode, hlimit, rfl, hascii, hp.isSettled⟩
    rw [ofChars?, if_pos hprefix, List.drop_left]
    split
    · next hshort => rw [(hdecoded p).2 ⟨hshort, rfl⟩, Option.map_some]
    · next hlong =>
        rw [Option.map_eq_none_iff, Option.eq_none_iff_forall_not_mem]
        exact fun text htext => hlong ((hdecoded text).1 htext).1

/-- What stands in a domain for a label is mapped and composed already. -/
theorem isPiece_ascii (hp : IsPiece p) (h : ofChars? p = some l) :
    (∀ c ∈ l.ascii, c.toNat < 128 ∧ Mapping.IsPlain c.toNat) ∧ '.' ∉ l.ascii := by
  have hmark : ∀ c ∈ mark, ¬ (0x41 ≤ c.toNat ∧ c.toNat ≤ 0x5A) := by simp [mark]
  refine ⟨fun c hc => ?_, fun hdot => ?_⟩
  · obtain ⟨hsmall, hmem | hmem | hdigit⟩ := mem_of_mem_ascii h hc
    · exact ⟨hsmall, hp.plain c hmem⟩
    · exact ⟨hsmall, Mapping.isPlain_of_ascii hsmall (hmark c hmem)⟩
    · refine ⟨hsmall, Mapping.isPlain_of_ascii hsmall ?_⟩
      unfold Punycode.IsDigitChar at hdigit
      omega
  · obtain ⟨-, hmem | hmem | hdigit⟩ := mem_of_mem_ascii h hdot
    · exact hp.noDot hmem
    · exact absurd hmem (by decide)
    · exact absurd hdigit (by decide)

/-- Labels are read again if each of them is. -/
theorem mapM_ofChars?_ascii {ps : List (List Char)} {ls : List Label} (hps : ∀ p ∈ ps, IsPiece p)
    (h : ps.mapM ofChars? = some ls) :
    (ls.map Label.ascii).mapM ofChars? = if ∀ a ∈ ls.map Label.ascii, IsShort a then some ls
      else none := by
  induction ps generalizing ls with
  | nil =>
      obtain rfl := Option.some.inj h
      simp
  | cons p ps ih =>
      obtain ⟨hp, hps⟩ := List.forall_mem_cons.1 hps
      rw [List.mapM_cons] at h
      obtain ⟨l, hl, h⟩ := Option.bind_eq_some_iff.1 h
      obtain ⟨rest, hrest, h⟩ := Option.bind_eq_some_iff.1 h
      obtain rfl := Option.some.inj h
      rw [List.map_cons, List.mapM_cons, ofChars?_ascii hp hl, ih hps hrest]
      simp only [List.forall_mem_cons]
      -- one label that is too long spoils the domain
      by_cases hshort : IsShort l.ascii
      · by_cases hall : ∀ a ∈ rest.map Label.ascii, IsShort a
        · rw [if_pos hshort, if_pos hall, if_pos ⟨hshort, hall⟩]
          rfl
        · have hboth : ¬ (IsShort l.ascii ∧ ∀ a ∈ rest.map Label.ascii, IsShort a) :=
            fun hboth => hall hboth.2
          rw [if_pos hshort, if_neg hall, if_neg hboth]
          rfl
      · have hboth : ¬ (IsShort l.ascii ∧ ∀ a ∈ rest.map Label.ascii, IsShort a) :=
          fun hboth => hshort hboth.1
        rw [if_neg hshort, if_neg hboth]
        rfl

theorem isPiece_of_mem_pieces {cs mapped : List Char} (h : Mapping.text? cs = some mapped)
    (hp : p ∈ Split.pieces '.' (Composition.compose mapped)) : IsPiece p := by
  have hdot : '.' ∉ p := fun hm => (Split.mem_of_mem_pieces hp hm).2 rfl
  rw [Composition.pieces_compose] at hp
  obtain ⟨q, hq, rfl⟩ := List.mem_map.1 hp
  refine ⟨?_, Composition.compose_compose q, hdot⟩
  exact Composition.forall_compose Mapping.isClosed_isPlain fun c hc =>
    Mapping.isPlain_of_text? h c (Split.mem_of_mem_pieces hq hc).1

end Label

namespace Domain

def HasShortLabels (name : List Char) : Prop :=
  ∀ l ∈ Split.pieces '.' name, Label.IsShort l

instance (name : List Char) : Decidable (HasShortLabels name) :=
  inferInstanceAs (Decidable (∀ _ ∈ _, _))

/-- The ASCII form of a domain is read again unless one of its labels is too long. -/
theorem ascii?_ascii? {cs name : List Char} (h : ascii? cs = some name) :
    ascii? name = if HasShortLabels name then some name else none := by
  simp only [ascii?, Option.bind_eq_bind, Option.bind_eq_some_iff,
    Option.ite_none_right_eq_some] at h
  obtain ⟨mapped, hmapped, labels, hlabels, hwell, h⟩ := h
  have hpiece : ∀ p ∈ Split.pieces '.' (Composition.compose mapped), Label.IsPiece p :=
    fun p hp => Label.isPiece_of_mem_pieces hmapped hp
  have hascii : ∀ a ∈ labels.map Label.ascii,
      (∀ c ∈ a, c.toNat < 128 ∧ Mapping.IsPlain c.toNat) ∧ '.' ∉ a := by
    intro a ha
    obtain ⟨l, hl, rfl⟩ := List.mem_map.1 ha
    obtain ⟨p, hp, hofChars⟩ := exists_of_mem_parts hlabels l hl
    exact Label.isPiece_ascii (hpiece p hp) hofChars
  have hname : ∀ c ∈ name, c.toNat < 128 ∧ Mapping.IsPlain c.toNat := by
    intro c hc
    rw [← Option.some.inj h] at hc
    rcases Split.mem_join hc with hdot | ⟨a, ha, hc⟩
    · rw [List.mem_singleton.1 hdot]
      exact ⟨by decide, Mapping.isPlain_of_ascii (by decide) (by decide)⟩
    · exact (hascii a ha).1 c hc
  have hpieces : Split.pieces '.' name = labels.map Label.ascii := by
    rw [← Option.some.inj h]
    refine Split.pieces_join ?_ fun a ha => (hascii a ha).2
    have hmap := mapM_eq_some_iff.1 hlabels
    intro hnil
    rw [List.map_eq_nil_iff.1 hnil, List.map_nil, List.map_eq_nil_iff] at hmap
    exact Split.pieces_ne_nil _ _ hmap
  -- The name is in ASCII, so neither the mapping nor the composition changes it.
  have hcompose : Composition.compose name = name := by
    rw [Composition.compose, if_pos (List.all_eq_true.2 fun c hc => decide_eq_true (hname c hc).1)]
  have hread : (Split.pieces '.' name).mapM Label.ofChars? =
      if HasShortLabels name then some labels else none := by
    simpa only [HasShortLabels, hpieces] using Label.mapM_ofChars?_ascii hpiece hlabels
  simp only [ascii?, Mapping.text?_of_isPlain fun c hc => (hname c hc).2, hcompose, hread,
    Option.bind_eq_bind, Option.bind_some]
  split
  · rw [Option.bind_some, if_pos hwell, h]
  · rfl

end Domain

end Url

end AuthGateway
