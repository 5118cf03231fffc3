import AuthGateway.Proofs.Escapes

/-!
Paths as segments. What is left of a text once dot segments are resolved are
segments in visible characters, none of them a dot segment, however its dots are
written; such segments stay as they are, and resolving makes no path longer.
-/
namespace AuthGateway

namespace Url.Segments

open Escape (inPath)
open Percent (IsKept)
open Route (escaped?)

def dots : List (List Char) := [['.'], ['%', '2', 'e'], ['%', '2', 'E']]

def IsDots (s : List Char) : Prop :=
  s ∈ dots ∨ ∃ d ∈ dots, ∃ d' ∈ dots, s = d ++ d'

/-- The ways to write a dot, in lower case. -/
theorem mem_dots_iff {s : List Char} :
    s ∈ dots ↔ s.map Ascii.lowerChar ∈ [['.'], ['%', '2', 'e']] := by
  have hdot (c : Char) : Ascii.lowerChar c = '.' ↔ c = '.' := Ascii.lowerChar_eq_iff (by decide)
  have hpercent (c : Char) : Ascii.lowerChar c = '%' ↔ c = '%' := Ascii.lowerChar_eq_iff (by decide)
  have htwo (c : Char) : Ascii.lowerChar c = '2' ↔ c = '2' := Ascii.lowerChar_eq_iff (by decide)
  simp only [List.map_eq_cons_iff, List.map_eq_nil_iff, hdot, hpercent, htwo,
    Ascii.lowerChar_eq_e_iff, dots, List.mem_cons, List.not_mem_nil, or_false]
  grind

theorem isSingleDot_iff {s : List Char} : isSingleDot s = true ↔ s ∈ dots := by
  simp [mem_dots_iff, isSingleDot]

theorem isDoubleDot_iff {s : List Char} :
    isDoubleDot s = true ↔ ∃ d ∈ dots, ∃ d' ∈ dots, s = d ++ d' := by
  constructor
  · intro h
    have hlower : ∃ d ∈ [['.'], ['%', '2', 'e']], ∃ d' ∈ [['.'], ['%', '2', 'e']],
        s.map Ascii.lowerChar = d ++ d' := by
      simpa [isDoubleDot, or_assoc] using h
    obtain ⟨d, hd, d', hd', heq⟩ := hlower
    obtain ⟨e, e', rfl, rfl, rfl⟩ := List.map_eq_append_iff.1 heq
    exact ⟨e, mem_dots_iff.2 hd, e', mem_dots_iff.2 hd', rfl⟩
  · rintro ⟨d, hd, d', hd', rfl⟩
    revert d' d
    decide

theorem isDots_iff {s : List Char} :
    IsDots s ↔ ¬ (isSingleDot s = false ∧ isDoubleDot s = false) := by
  rw [IsDots, ← isSingleDot_iff, ← isDoubleDot_iff]
  cases isSingleDot s <;> cases isDoubleDot s <;> simp

/-- No escape in a way to write dots stands for anything but a dot. -/
theorem escape_of_isDots {s : List Char} (h : IsDots s) {hi lo : Char}
    (he : ['%', hi, lo] <:+: s) : escaped? hi lo = some '.' := by
  have hpair : hi = '2' ∧ (lo = 'e' ∨ lo = 'E') := by
    simp only [IsDots, dots, List.mem_cons, List.not_mem_nil, or_false] at h
    rcases h with (rfl | rfl | rfl) | ⟨d, rfl | rfl | rfl, d', rfl | rfl | rfl, rfl⟩ <;>
      simp [List.infix_cons_iff, List.cons_prefix_cons] at he <;> grind
  obtain ⟨rfl, rfl | rfl⟩ := hpair
  · decide
  · decide

/-- What is a dot segment once it is escaped was one before. -/
theorem encode_of_isDots {s : List Char} (h : IsDots (Percent.encode inPath s)) :
    Percent.encode inPath s = s := by
  refine Percent.encode_of_kept fun c hc => Decidable.byContradiction fun hescaped => ?_
  obtain ⟨hi, lo, d, hinfix, he, hd⟩ := Route.exists_escape_of_not_kept hc hescaped
  have hdot := escape_of_isDots h hinfix
  rw [he] at hdot
  cases hdot
  exact hd (by decide)

structure IsResolved (s : List Char) : Prop where
  kept : ∀ c ∈ s, IsKept inPath c ∧ c ≠ '/' ∧ c ≠ '\\'
  notDots : ¬ IsDots s

theorem isResolved_nil : IsResolved [] :=
  ⟨by simp, by simp [IsDots, dots]⟩

theorem isResolved_encode {s : List Char} (hs : ∀ c ∈ s, c ≠ '/' ∧ c ≠ '\\')
    (hdots : ¬ IsDots s) : IsResolved (Percent.encode inPath s) := by
  refine ⟨fun c hc => ?_, fun h => hdots (encode_of_isDots h ▸ h)⟩
  rcases Percent.mem_encode_cases hc with ⟨hmem, hkept⟩ | rfl | ⟨n, hn, rfl⟩
  · exact ⟨hkept, hs c hmem⟩
  · decide
  · have hdigit : ∀ m < 16, IsKept inPath (Hex.upperDigit m) ∧ Hex.upperDigit m ≠ '/' ∧
        Hex.upperDigit m ≠ '\\' := by decide
    exact hdigit n hn

/-! Resolving as far as it concerns a property that the empty segment has. -/

theorem mem_of_mem_leave {done : List (List Char)} {s : List Char} (h : s ∈ leave done) :
    s ∈ done := by
  cases done with
  | nil => exact h
  | cons t rest =>
      simp only [leave] at h
      split at h
      · exact h
      · exact List.mem_cons_of_mem _ h

section Resolving

variable {P : List Char → Prop} {done ps : List (List Char)}

/-- A property of segments stays when one more is entered. -/
theorem forall_enter (hnil : P []) (hdone : ∀ s ∈ done, P s) {s : List Char}
    (hs : ¬ IsDots s → P (Percent.encode inPath s)) (isLast : Bool) :
    ∀ t ∈ enter done s isLast, P t := by
  have hleave : ∀ t ∈ leave done, P t := fun t ht => hdone t (mem_of_mem_leave ht)
  unfold enter
  split
  · split
    · exact List.forall_mem_cons.2 ⟨hnil, hleave⟩
    · exact hleave
  · next hdouble =>
      split
      · split
        · exact List.forall_mem_cons.2 ⟨hnil, hdone⟩
        · exact hdone
      · next hsingle =>
          refine List.forall_mem_cons.2 ⟨hs fun h => ?_, hdone⟩
          exact isDots_iff.1 h ⟨by simpa using hsingle, by simpa using hdouble⟩

theorem forall_walk (hnil : P []) (hdone : ∀ s ∈ done, P s)
    (hps : ∀ s ∈ ps, ¬ IsDots s → P (Percent.encode inPath s)) : ∀ t ∈ walk done ps, P t := by
  induction ps generalizing done with
  | nil => exact hdone
  | cons s rest ih =>
      have hs := hps s List.mem_cons_self
      exact ih (forall_enter hnil hdone hs _) fun t ht => hps t (List.mem_cons_of_mem _ ht)

theorem forall_resolve (hnil : P [])
    (hps : ∀ s ∈ ps, ¬ IsDots s → P (Percent.encode inPath s)) : ∀ t ∈ resolve ps, P t := by
  intro t ht
  exact forall_walk hnil (by simp) hps t (List.mem_reverse.1 ht)

end Resolving

theorem pieces_chars {segments : List (List Char)} (h : ∀ s ∈ segments, '/' ∉ s) :
    Split.pieces '/' (chars segments) = [] :: segments := by
  induction segments with
  | nil => rfl
  | cons s rest ih =>
      have ih := ih fun t ht => h t (List.mem_cons_of_mem _ ht)
      have hchars : chars (s :: rest) = '/' :: (s ++ chars rest) := rfl
      rw [hchars, Split.pieces_cons_sep, Split.pieces_append (h s List.mem_cons_self), ih]
      simp

/-- Segments that are resolved stay as they are. -/
theorem walk_of_resolved {done ps : List (List Char)} (h : ∀ s ∈ ps, IsResolved s) :
    walk done ps = ps.reverse ++ done := by
  induction ps generalizing done with
  | nil => rfl
  | cons s rest ih =>
      have hs := h s List.mem_cons_self
      have hnot : isSingleDot s = false ∧ isDoubleDot s = false :=
        Decidable.not_not.1 fun hdots => hs.notDots (isDots_iff.2 hdots)
      have henter : enter done s rest.isEmpty = s :: done := by
        simp only [enter, hnot.1, hnot.2, Bool.false_eq_true, if_false]
        rw [Percent.encode_of_kept fun c hc => (hs.kept c hc).1]
      rw [walk, henter, ih fun t ht => h t (List.mem_cons_of_mem _ ht)]
      simp

theorem chars_cons (s : List Char) (rest : List (List Char)) :
    chars (s :: rest) = '/' :: (s ++ chars rest) :=
  rfl

/-- The pieces between slashes, each behind a slash again, are the text behind one. -/
theorem chars_pieces (cs : List Char) : chars (Split.pieces '/' cs) = '/' :: cs := by
  induction cs with
  | nil => rfl
  | cons c cs ih =>
      by_cases hc : c = '/'
      · rw [hc, Split.pieces_cons_sep, chars_cons, ih]
        rfl
      · have hne : '/' ∉ [c] := by simpa using Ne.symm hc
        rw [← List.singleton_append, Split.pieces_append hne]
        cases hps : Split.pieces '/' cs with
        | nil => exact absurd hps (Split.pieces_ne_nil '/' cs)
        | cons p ps =>
            rw [hps, chars_cons] at ih
            rw [chars_cons, List.headD_cons, List.tail_cons, List.append_assoc,
              (List.cons.inj ih).2]

/-! Resolving makes a path no longer. -/

theorem length_leave_le (done : List (List Char)) :
    (chars (leave done)).length ≤ (chars done).length := by
  cases done with
  | nil => exact Nat.le_refl _
  | cons s rest =>
      simp only [leave]
      split
      · exact Nat.le_refl _
      · simp only [chars_cons, List.length_cons, List.length_append]
        omega

/-- A segment adds no more than its own characters and a slash. -/
theorem length_enter_le {s : List Char} (h : ∀ c ∈ s, IsKept inPath c) (done : List (List Char))
    (isLast : Bool) :
    (chars (enter done s isLast)).length ≤ (chars done).length + (s.length + 1) := by
  have hleave := length_leave_le done
  unfold enter
  split
  · split
    · simp only [chars_cons, List.length_cons, List.nil_append]
      omega
    · omega
  · split
    · split
      · simp only [chars_cons, List.length_cons, List.nil_append]
        omega
      · omega
    · rw [Percent.encode_of_kept h]
      simp only [chars_cons, List.length_cons, List.length_append]
      omega

theorem length_walk_le {ps : List (List Char)} (h : ∀ s ∈ ps, ∀ c ∈ s, IsKept inPath c)
    (done : List (List Char)) :
    (chars (walk done ps)).length ≤ (chars done).length + (chars ps).length := by
  induction ps generalizing done with
  | nil => simp [walk, chars]
  | cons s rest ih =>
      have henter := length_enter_le (h s List.mem_cons_self) done rest.isEmpty
      have ih := ih (fun t ht => h t (List.mem_cons_of_mem _ ht)) (enter done s rest.isEmpty)
      simp only [walk, chars_cons, List.length_cons, List.length_append]
      omega

theorem length_resolve_le {ps : List (List Char)} (h : ∀ s ∈ ps, ∀ c ∈ s, IsKept inPath c) :
    (chars (resolve ps)).length ≤ (chars ps).length := by
  have hwalk := length_walk_le h []
  have hreverse : (chars (resolve ps)).length = (chars (walk [] ps)).length := by
    simp only [chars, resolve, List.length_flatMap, List.map_reverse, List.sum_reverse]
  have hempty : (chars []).length = 0 := rfl
  omega

/-! The segments of a text. -/

theorem exists_pieces (cs : List Char) : ∃ rest, pieces true cs = Split.pieces '/' rest ∧
    ∀ c ∈ rest, c ≠ '\\' ∧ (c ∈ cs ∨ c = '/') := by
  have hunify : ∀ c ∈ unifySlashes true cs, c ≠ '\\' ∧ (c ∈ cs ∨ c = '/') := by
    intro c hc
    simp only [unifySlashes, if_true, List.mem_map] at hc
    obtain ⟨d, hd, rfl⟩ := hc
    split
    · exact ⟨by decide, .inr rfl⟩
    · next hne => exact ⟨hne, .inl hd⟩
  unfold pieces
  split
  · next rest heq =>
      refine ⟨rest, rfl, fun c hc => hunify c ?_⟩
      rw [heq]
      exact List.mem_cons_of_mem _ hc
  · exact ⟨_, rfl, hunify⟩

theorem isResolved_of_mem_ofChars {cs s : List Char} (h : s ∈ ofChars true cs) : IsResolved s := by
  obtain ⟨rest, hpieces, hrest⟩ := exists_pieces cs
  refine forall_resolve isResolved_nil (fun t ht hdots => ?_) s h
  rw [hpieces] at ht
  refine isResolved_encode (fun c hc => ?_) hdots
  obtain ⟨hmem, hne⟩ := Split.mem_of_mem_pieces ht hc
  exact ⟨hne, (hrest c hmem).1⟩

/-- Where nothing is left to unify or leave out, the pieces are those of the text. -/
theorem pieces_of_kept {rest : List Char} (h : ∀ c ∈ rest, IsKept inPath c ∧ c ≠ '\\') :
    pieces true (Escape.significant ('/' :: rest)) = Split.pieces '/' rest := by
  have hsignificant : Escape.significant ('/' :: rest) = '/' :: rest := by
    refine List.filter_eq_self.2 fun c hc => ?_
    cases List.mem_cons.1 hc with
    | inl hslash => subst hslash; decide
    | inr hmem =>
        have hkept := (h c hmem).1
        rw [Bool.not_eq_true', ← Bool.not_eq_true]
        intro hignored
        simp only [Escape.isIgnored, Bool.or_eq_true, beq_iff_eq] at hignored
        rcases hignored with (rfl | rfl) | rfl
        · exact absurd hkept (by decide)
        · exact absurd hkept (by decide)
        · exact absurd hkept (by decide)
  have hunify : unifySlashes true ('/' :: rest) = '/' :: rest := by
    simp only [unifySlashes, if_true]
    refine (List.map_congr_left fun c hc => ?_).trans (List.map_id _)
    cases List.mem_cons.1 hc with
    | inl hslash => subst hslash; rfl
    | inr hmem => exact if_neg (h c hmem).2
  rw [hsignificant, pieces, hunify]
  rfl

end Url.Segments

end AuthGateway
