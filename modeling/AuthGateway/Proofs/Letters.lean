import AuthGateway.Proofs.CodeTable
import AuthGateway.Text.Composition

/-!
Composed characters and their letters. The table of pairs is one that can be undone:
what two characters compose is taken apart into the letters of the first and the
second, and no letter can be taken apart.
-/
namespace AuthGateway

namespace Composition

open CodeTable (bits testBit_bits exists_span_iff)

/-! The table of pairs. -/

def composed : Nat :=
  bits pairs.spans

/-- What an entry shows by itself. No syllable has to do with pairs, the second part
is not composed, and only the first part is ever in ASCII, but no dot. -/
def isSound (r : CodeRange (Nat × Nat)) : Bool :=
  r.first == r.last && !isSyllable r.first && !isSyllable r.value.1 && !isSyllable r.value.2 &&
    !composed.testBit r.value.2 && 128 ≤ r.first && 128 ≤ r.value.2 && r.value.1 != 0x2E &&
    decide (r.first.isValidChar ∧ r.value.1.isValidChar ∧ r.value.2.isValidChar)

/-- The composed characters whose first part is again in a set. -/
def above (m : Nat) : Nat :=
  bits ((pairs.ranges.toList.filter fun r => m.testBit r.value.1).map fun r => (r.first, r.last))

/-- The characters that are composed more than so many times. -/
def deep : Nat → Nat
  | 0 => composed
  | times + 1 => above (deep times)

theorem isAscending_pairs : pairs.IsAscending := by
  decide +kernel

theorem all_isSound : pairs.ranges.toList.all isSound = true := by
  decide +kernel

theorem deep_three : deep 3 = 0 := by
  decide +kernel

theorem jamo_not_composed : composed &&& bits [(0x1100, 0x11FF)] = 0 := by
  decide +kernel

theorem isSyllable_iff {n : Nat} : isSyllable n = true ↔ 0xAC00 ≤ n ∧ n < 0xAC00 + 11172 := by
  rw [isSyllable, Bool.and_eq_true, decide_eq_true_eq, decide_eq_true_eq]
  rfl

theorem not_isSyllable_iff {n : Nat} :
    isSyllable n = false ↔ ¬ (0xAC00 ≤ n ∧ n < 0xAC00 + 11172) := by
  rw [← isSyllable_iff, Bool.not_eq_true]

structure IsPair (c first second : Nat) : Prop where
  notSyllable : isSyllable c = false
  firstNotSyllable : isSyllable first = false
  secondNotSyllable : isSyllable second = false
  secondNotComposed : composed.testBit second = false
  notAscii : 128 ≤ c ∧ 128 ≤ second
  noDot : first ≠ 0x2E
  valid : c.isValidChar ∧ first.isValidChar ∧ second.isValidChar

variable {n c a b : Nat}

theorem mem_pairs_of_pairOf? (h : pairOf? n = some (a, b)) :
    ∃ r ∈ pairs.ranges, r.first = n ∧ r.Covers n ∧ r.value = (a, b) ∧ isSound r = true := by
  obtain ⟨r, hfind, hvalue⟩ := Option.map_eq_some_iff.1 h
  obtain ⟨hr, hcovers⟩ := CodeTable.find?_sound hfind
  have hsound := List.all_eq_true.1 all_isSound r (Array.mem_toList_iff.2 hr)
  refine ⟨r, hr, ?_, hcovers, hvalue, hsound⟩
  have hsame : r.first = r.last := by
    simp only [isSound, Bool.and_eq_true, beq_iff_eq] at hsound
    exact hsound.1.1.1.1.1.1.1.1
  have := hcovers.1
  have := hcovers.2
  omega

theorem isPair_of_pairOf? (h : pairOf? c = some (a, b)) : IsPair c a b := by
  obtain ⟨r, -, rfl, -, hvalue, hsound⟩ := mem_pairs_of_pairOf? h
  simp only [isSound, hvalue, Bool.and_eq_true, beq_iff_eq, bne_iff_ne, Bool.not_eq_true',
    decide_eq_true_eq] at hsound
  obtain ⟨⟨⟨⟨⟨⟨⟨⟨-, hc⟩, ha⟩, hb⟩, hsecond⟩, hlarge⟩, hlarge'⟩, hdot⟩, hvalid⟩ := hsound
  exact ⟨hc, ha, hb, hsecond, ⟨hlarge, hlarge'⟩, hdot, hvalid⟩

theorem pairOf?_eq_none_iff : pairOf? n = none ↔ composed.testBit n = false := by
  rw [pairOf?, Option.map_eq_none_iff, CodeTable.find?_eq_none_iff isAscending_pairs,
    ← Bool.not_eq_true, composed, testBit_bits, exists_span_iff]
  simp

theorem pairOf?_of_ofPair? (h : ofPair? a b = some c) : pairOf? c = some (a, b) := by
  obtain ⟨r, hfind, rfl⟩ := Option.map_eq_some_iff.1 h
  have hr : r ∈ pairs.ranges := Array.mem_of_find?_eq_some hfind
  have hvalue : r.value = (a, b) := by
    simpa using Array.find?_some hfind
  rw [pairOf?, CodeTable.find?_complete isAscending_pairs hr
    ⟨Nat.le_refl _, isAscending_pairs.first_le_last hr⟩, Option.map_some, hvalue]

/-! Letters. -/

theorem lettersWithin_of_atomic (hs : isSyllable n = false) (hc : composed.testBit n = false)
    (times : Nat) : lettersWithin n times = [n] := by
  cases times with
  | zero => rfl
  | succ times => simp [lettersWithin, hs, pairOf?_eq_none_iff.2 hc]

theorem lettersWithin_of_pair (h : pairOf? c = some (a, b)) (times : Nat) :
    lettersWithin c (times + 1) = lettersWithin a times ++ [b] := by
  have hs := (isPair_of_pairOf? h).notSyllable
  simp [lettersWithin, hs, h]

theorem deep_of_pair {times : Nat} (h : pairOf? c = some (a, b))
    (hc : (deep (times + 1)).testBit c = false) : (deep times).testBit a = false := by
  obtain ⟨r, hr, -, hcovers, hvalue, -⟩ := mem_pairs_of_pairOf? h
  rw [← Bool.not_eq_true] at hc ⊢
  refine fun ha => hc ?_
  rw [deep, above, testBit_bits]
  refine ⟨_, List.mem_map_of_mem (List.mem_filter.2 ⟨Array.mem_toList_iff.2 hr, ?_⟩), hcovers⟩
  rw [hvalue]
  exact ha

/-- More steps than a character needs make no difference. -/
theorem lettersWithin_succ {times : Nat} (hs : isSyllable n = true → 0 < times)
    (hdeep : (deep times).testBit n = false) :
    lettersWithin n (times + 1) = lettersWithin n times := by
  induction times generalizing n with
  | zero =>
      have hn : isSyllable n = false := by
        simpa using hs
      exact lettersWithin_of_atomic hn hdeep 1
  | succ times ih =>
      cases hn : isSyllable n with
      | true => simp [lettersWithin, hn]
      | false =>
          cases hpair : pairOf? n with
          | none => simp [lettersWithin, hn, hpair]
          | some p =>
              obtain ⟨a, b⟩ := p
              have ha := (isPair_of_pairOf? hpair).firstNotSyllable
              rw [lettersWithin_of_pair hpair, lettersWithin_of_pair hpair,
                ih (by simp [ha]) (deep_of_pair hpair hdeep)]

theorem letters_eq (n : Nat) : letters n = lettersWithin n 3 :=
  lettersWithin_succ (fun _ => by decide) (by rw [deep_three, Nat.zero_testBit])

def IsLetter (n : Nat) : Prop :=
  isSyllable n = false ∧ composed.testBit n = false

theorem IsLetter.letters (h : IsLetter n) : letters n = [n] :=
  lettersWithin_of_atomic h.1 h.2 4

theorem flatMap_letters {xs : List Nat} (h : ∀ m ∈ xs, IsLetter m) : xs.flatMap letters = xs := by
  induction xs with
  | nil => rfl
  | cons m xs ih =>
      obtain ⟨hm, hxs⟩ := List.forall_mem_cons.1 h
      rw [List.flatMap_cons, hm.letters, ih hxs]
      rfl

theorem isLetter_of_ascii (h : n < 128) : IsLetter n := by
  refine ⟨not_isSyllable_iff.2 (by omega), ?_⟩
  rw [← pairOf?_eq_none_iff]
  cases hpair : pairOf? n with
  | none => rfl
  | some p => exact absurd (isPair_of_pairOf? hpair).notAscii.1 (Nat.not_le.2 h)

def IsJamo (n : Nat) : Prop :=
  0x1100 ≤ n ∧ n < 0x1100 + 19 ∨ 0x1161 ≤ n ∧ n < 0x1161 + 21 ∨ 0x11A7 < n ∧ n < 0x11A7 + 28

theorem isLetter_of_isJamo (h : IsJamo n) : IsLetter n := by
  unfold IsJamo at h
  refine ⟨not_isSyllable_iff.2 (by omega), ?_⟩
  have hbit : (composed &&& bits [(0x1100, 0x11FF)]).testBit n = false := by
    rw [jamo_not_composed, Nat.zero_testBit]
  have hjamo : (bits [(0x1100, 0x11FF)]).testBit n = true :=
    testBit_bits.2 ⟨_, List.mem_singleton_self _, by dsimp only; omega⟩
  rw [Nat.testBit_and, hjamo] at hbit
  exact (Bool.and_true _).symm.trans hbit

theorem syllableLetters_eq (n : Nat) :
    syllableLetters n =
      [0x1100 + (n - 0xAC00) / 588, 0x1161 + (n - 0xAC00) % 588 / 28] ++
        if (n - 0xAC00) % 28 = 0 then [] else [0x11A7 + (n - 0xAC00) % 28] :=
  rfl

theorem isJamo_of_mem_syllableLetters (hs : isSyllable n = true) {m : Nat}
    (h : m ∈ syllableLetters n) : IsJamo m := by
  have hn := isSyllable_iff.1 hs
  simp only [syllableLetters_eq, List.mem_append, List.mem_cons, List.not_mem_nil, or_false] at h
  rcases h with (rfl | rfl) | hm
  · exact .inl (by omega)
  · exact .inr (.inl (by omega))
  · split at hm
    · cases hm
    · rw [List.mem_singleton.1 hm]
      exact .inr (.inr (by omega))

/-- Enough steps take every character apart into letters. -/
theorem isLetter_of_mem_lettersWithin {times : Nat} (hs : isSyllable n = true → 0 < times)
    (hdeep : (deep times).testBit n = false) {m : Nat} (h : m ∈ lettersWithin n times) :
    IsLetter m := by
  induction times generalizing n with
  | zero =>
      have hn : isSyllable n = false := by
        simpa using hs
      exact List.mem_singleton.1 h ▸ ⟨hn, hdeep⟩
  | succ times ih =>
      cases hn : isSyllable n with
      | true =>
          rw [lettersWithin, hn] at h
          exact isLetter_of_isJamo (isJamo_of_mem_syllableLetters hn h)
      | false =>
          cases hpair : pairOf? n with
          | none =>
              simp only [lettersWithin, hn, hpair, Bool.false_eq_true, if_false] at h
              exact List.mem_singleton.1 h ▸ ⟨hn, pairOf?_eq_none_iff.1 hpair⟩
          | some p =>
              obtain ⟨a, b⟩ := p
              have hsound := isPair_of_pairOf? hpair
              rw [lettersWithin_of_pair hpair] at h
              -- the second part is a letter, and the first is composed once less
              rcases List.mem_append.1 h with hfirst | hsecond
              · exact ih (by simp [hsound.firstNotSyllable]) (deep_of_pair hpair hdeep) hfirst
              · rw [List.mem_singleton.1 hsecond]
                exact ⟨hsound.secondNotSyllable, hsound.secondNotComposed⟩

theorem isLetter_of_mem_letters {m : Nat} (h : m ∈ letters n) : IsLetter m :=
  isLetter_of_mem_lettersWithin (fun _ => by decide) (by rw [deep_three, Nat.zero_testBit])
    (letters_eq n ▸ h)

theorem letters_of_syllable (h : isSyllable n = true) : letters n = syllableLetters n := by
  rw [letters, lettersWithin, h, if_pos rfl]

/-- A syllable is composed of two letters, or of a syllable without a third letter and that one. -/
theorem syllable?_eq_some (h : syllable? a b = some c) :
    (∃ l v, l < 19 ∧ v < 21 ∧ a = 0x1100 + l ∧ b = 0x1161 + v ∧ c = 0xAC00 + (l * 21 + v) * 28) ∨
      ∃ t, isSyllable a = true ∧ (a - 0xAC00) % 28 = 0 ∧ 0 < t ∧ t < 28 ∧ b = 0x11A7 + t ∧
        c = a + t := by
  rw [syllable?] at h
  split at h
  · next hjamo =>
      obtain ⟨hlead, hlead', hvowel, hvowel'⟩ := hjamo
      have hlead : 0x1100 ≤ a := hlead
      have hlead' : a < 0x1100 + 19 := hlead'
      have hvowel : 0x1161 ≤ b := hvowel
      have hvowel' : b < 0x1161 + 21 := hvowel'
      exact .inl ⟨a - 0x1100, b - 0x1161, by omega, by omega, by omega, by omega,
        (Option.some.inj h).symm⟩
  · split at h
    · next htail =>
        obtain ⟨hs, hopen, htail, htail'⟩ := htail
        have htail : 0x11A7 < b := htail
        have htail' : b < 0x11A7 + 28 := htail'
        exact .inr ⟨b - 0x11A7, hs, hopen, by omega, by omega, by omega,
          (Option.some.inj h).symm⟩
    · cases h

/-- A composed syllable has the letters of both its parts. -/
theorem letters_of_syllable? (h : syllable? a b = some c) : letters c = letters a ++ [b] := by
  rcases syllable?_eq_some h with ⟨l, v, hl, hv, rfl, rfl, rfl⟩ | ⟨t, hs, hopen, hpos, ht, rfl, rfl⟩
  · have hlead := (isLetter_of_isJamo (show IsJamo (0x1100 + l) from .inl (by omega))).letters
    have hsyllable : isSyllable (0xAC00 + (l * 21 + v) * 28) = true :=
      isSyllable_iff.2 (by omega)
    have hindex : 0xAC00 + (l * 21 + v) * 28 - 0xAC00 = (l * 21 + v) * 28 := by omega
    have hfirst : (l * 21 + v) * 28 / 588 = l := by omega
    have hsecond : (l * 21 + v) * 28 % 588 / 28 = v := by omega
    rw [hlead, letters_of_syllable hsyllable, syllableLetters_eq, hindex, hfirst, hsecond,
      if_pos (Nat.mul_mod_left _ _)]
    rfl
  · obtain ⟨i, rfl⟩ := Nat.exists_eq_add_of_le (isSyllable_iff.1 hs).1
    have hsmall := (isSyllable_iff.1 hs).2
    rw [Nat.add_sub_cancel_left] at hopen
    have hsyllable : isSyllable (0xAC00 + i + t) = true := isSyllable_iff.2 (by omega)
    have hindex : 0xAC00 + i + t - 0xAC00 = i + t := by omega
    have hfirst : (i + t) / 588 = i / 588 := by omega
    have hsecond : (i + t) % 588 / 28 = i % 588 / 28 := by omega
    have hthird : (i + t) % 28 = t := by omega
    rw [letters_of_syllable hsyllable, letters_of_syllable hs, syllableLetters_eq,
      syllableLetters_eq, hindex, hfirst, hsecond, hthird, Nat.add_sub_cancel_left, if_pos hopen, if_neg (Nat.ne_of_gt hpos)]
    rfl

/-- Two characters compose a syllable, or a character of the table. -/
theorem composite?_eq_some (h : composite? a b = some c) :
    syllable? a b = some c ∨ pairOf? c = some (a, b) := by
  rw [composite?] at h
  cases hsyllable : syllable? a b with
  | some d =>
      rw [hsyllable] at h
      exact .inl h
  | none =>
      rw [hsyllable, Option.orElse_none] at h
      exact .inr (pairOf?_of_ofPair? h)

/-- What two characters compose has the letters of the first, and the second. -/
theorem letters_of_composite? (h : composite? a b = some c) : letters c = letters a ++ [b] := by
  rcases composite?_eq_some h with hsyllable | hpair
  · exact letters_of_syllable? hsyllable
  · rw [letters, lettersWithin_of_pair hpair, letters_eq a]

theorem isSyllable_of_syllable? (h : syllable? a b = some c) : isSyllable c = true := by
  rcases syllable?_eq_some h with ⟨l, v, hl, hv, -, -, rfl⟩ | ⟨t, hs, hopen, -, ht, -, rfl⟩
  · exact isSyllable_iff.2 (by omega)
  · obtain ⟨i, rfl⟩ := Nat.exists_eq_add_of_le (isSyllable_iff.1 hs).1
    have hsmall := (isSyllable_iff.1 hs).2
    rw [Nat.add_sub_cancel_left] at hopen
    exact isSyllable_iff.2 (by omega)

/-- A property that a composed character has if both its parts do. -/
structure IsClosed (P : Nat → Prop) : Prop where
  pair : ∀ {c a b}, pairOf? c = some (a, b) → (P c ↔ P a ∧ P b)
  syllable : ∀ {n}, isSyllable n = true → P n
  jamo : ∀ {n}, IsJamo n → P n

variable {P : Nat → Prop}

theorem IsClosed.lettersWithin (h : IsClosed P) (times : Nat) (hn : P n) :
    ∀ m ∈ lettersWithin n times, P m := by
  induction times generalizing n with
  | zero => exact fun m hm => List.mem_singleton.1 hm ▸ hn
  | succ times ih =>
      cases hs : isSyllable n with
      | true =>
          intro m hm
          rw [Composition.lettersWithin, hs] at hm
          exact h.jamo (isJamo_of_mem_syllableLetters hs hm)
      | false =>
          cases hpair : pairOf? n with
          | none =>
              intro m hm
              simp only [Composition.lettersWithin, hs, hpair, Bool.false_eq_true, if_false] at hm
              exact List.mem_singleton.1 hm ▸ hn
          | some p =>
              obtain ⟨a, b⟩ := p
              obtain ⟨ha, hb⟩ := (h.pair hpair).1 hn
              intro m hm
              rw [lettersWithin_of_pair hpair] at hm
              rcases List.mem_append.1 hm with hfirst | hsecond
              · exact ih ha m hfirst
              · exact List.mem_singleton.1 hsecond ▸ hb

theorem IsClosed.letters (h : IsClosed P) (hn : P n) : ∀ m ∈ letters n, P m :=
  h.lettersWithin 4 hn

theorem IsClosed.composite (h : IsClosed P) (hc : composite? a b = some c) (ha : P a) (hb : P b) :
    P c := by
  rcases composite?_eq_some hc with hsyllable | hpair
  · exact h.syllable (isSyllable_of_syllable? hsyllable)
  · exact (h.pair hpair).2 ⟨ha, hb⟩

theorem isClosed_isValidChar : IsClosed Nat.isValidChar where
  pair h := by
    obtain ⟨hc, ha, hb⟩ := (isPair_of_pairOf? h).valid
    exact ⟨fun _ => ⟨ha, hb⟩, fun _ => hc⟩
  syllable h := by
    have := isSyllable_iff.1 h
    exact .inl (by omega)
  jamo h := by
    unfold IsJamo at h
    exact .inl (by omega)

/-- A dot takes part in nothing. -/
theorem isClosed_ne_dot : IsClosed (· ≠ 0x2E) where
  pair h := by
    obtain ⟨hc, hb⟩ := (isPair_of_pairOf? h).notAscii
    exact ⟨fun _ => ⟨(isPair_of_pairOf? h).noDot, by omega⟩, fun _ => by omega⟩
  syllable h := by
    have := isSyllable_iff.1 h
    omega
  jamo h := by
    unfold IsJamo at h
    omega

/-- What takes part in no syllable and in no pair as the second part is composed with
nothing in front of it. -/
theorem composite?_eq_none_of_second (hjamo : ¬ IsJamo b) (hpair : ∀ c, pairOf? c ≠ some (a, b)) :
    composite? a b = none := by
  rw [Option.eq_none_iff_forall_not_mem]
  intro c hc
  rcases composite?_eq_some hc with hsyllable | hc
  · rcases syllable?_eq_some hsyllable with ⟨l, v, -, hv, -, rfl, -⟩ | ⟨t, -, -, hpos, ht, rfl, -⟩
    · exact hjamo (.inr (.inl (by omega)))
    · exact hjamo (.inr (.inr (by omega)))
  · exact hpair c hc

theorem composite?_of_ascii (h : b < 128) (a : Nat) : composite? a b = none := by
  refine composite?_eq_none_of_second ?_ fun c hc => ?_
  · unfold IsJamo
    omega
  · exact absurd (isPair_of_pairOf? hc).notAscii.2 (Nat.not_le.2 h)

theorem composite?_dot (n : Nat) : composite? 0x2E n = none := by
  rw [Option.eq_none_iff_forall_not_mem]
  intro c hc
  rcases composite?_eq_some hc with hsyllable | hpair
  · rcases syllable?_eq_some hsyllable with ⟨l, v, -, -, hdot, -, -⟩ | ⟨t, hs, -⟩
    · omega
    · exact absurd hs (by decide)
  · exact absurd rfl (isPair_of_pairOf? hpair).noDot

end Composition

end AuthGateway
