import AuthGateway.Proofs.ComposedForm
import AuthGateway.Url.Domain.Mapping

/-!
The mapping of domains. What stands for a character stands for itself, and so does
what such characters are composed of or taken apart to, so that a text that was mapped
and composed stays as it is.
-/
namespace AuthGateway

namespace Url.Mapping

open CodeTable (bits testBit_bits exists_span_iff)
open AuthGateway.Composition (pairs)

/-! What the tables keep to. -/

def unsettled : Nat :=
  bits ((0x41, 0x5A) :: (refused.spans ++ (ignored.spans ++ replaced.spans)))

def standIns : List (Nat × Nat) :=
  replaced.ranges.toList.flatMap fun r => r.value.map fun n => (n, n + (r.last - r.first))

/-- The other characters of ASCII, and the letters and syllables of Hangul. -/
def settledBlocks : List (Nat × Nat) :=
  [(0, 0x40), (0x5B, 0x7F), (0x1100, 0x1112), (0x1161, 0x1175), (0x11A8, 0x11C2), (0xAC00, 0xD7A3)]

theorem isAscending_refused : refused.IsAscending := by
  decide +kernel

theorem isAscending_ignored : ignored.IsAscending := by
  decide +kernel

theorem isAscending_replaced : replaced.IsAscending := by
  decide +kernel

theorem settled_not_unsettled : bits (settledBlocks ++ standIns) &&& unsettled = 0 := by
  decide +kernel

theorem pairs_settled : pairs.ranges.toList.all (fun r =>
    unsettled.testBit r.first == (unsettled.testBit r.value.1 || unsettled.testBit r.value.2)) =
      true := by
  decide +kernel

def IsPlain (n : Nat) : Prop :=
  unsettled.testBit n = false

variable {n : Nat} {c : Char} {cs ds : List Char}

theorem isPlain_iff : IsPlain n ↔ ¬ (0x41 ≤ n ∧ n ≤ 0x5A) ∧ (∀ r ∈ refused.ranges, ¬ r.Covers n) ∧
    (∀ r ∈ ignored.ranges, ¬ r.Covers n) ∧ ∀ r ∈ replaced.ranges, ¬ r.Covers n := by
  rw [IsPlain, ← Bool.not_eq_true, unsettled, testBit_bits]
  simp only [List.mem_cons, List.mem_append, or_and_right, exists_or, exists_eq_left, exists_span_iff]
  grind

theorem isPlain_of_settled {r : Nat × Nat} (hr : r ∈ settledBlocks ++ standIns)
    (hn : r.1 ≤ n ∧ n ≤ r.2) : IsPlain n := by
  have hbit : (bits (settledBlocks ++ standIns) &&& unsettled).testBit n = false := by
    rw [settled_not_unsettled, Nat.zero_testBit]
  rw [Nat.testBit_and, testBit_bits.2 ⟨r, hr, hn⟩] at hbit
  exact (Bool.true_and _).symm.trans hbit

theorem isPlain_of_block {r : Nat × Nat} (hr : r ∈ settledBlocks) (hn : r.1 ≤ n ∧ n ≤ r.2) :
    IsPlain n :=
  isPlain_of_settled (List.mem_append_left _ hr) hn

/-- What is composed of characters that stand for themselves stands for itself. -/
theorem isClosed_isPlain : Composition.IsClosed IsPlain where
  pair := by
    intro c a b h
    obtain ⟨r, hr, rfl, -, hvalue, -⟩ := Composition.mem_pairs_of_pairOf? h
    have hall := List.all_eq_true.1 pairs_settled r (Array.mem_toList_iff.2 hr)
    rw [hvalue, beq_iff_eq] at hall
    rw [IsPlain, IsPlain, IsPlain, hall, Bool.or_eq_false_iff]
  syllable h := by
    have := Composition.isSyllable_iff.1 h
    exact isPlain_of_block (show (0xAC00, 0xD7A3) ∈ settledBlocks by decide) (by dsimp only; omega)
  jamo h := by
    rcases h with h | h | h
    · exact isPlain_of_block (show (0x1100, 0x1112) ∈ settledBlocks by decide) (by dsimp only; omega)
    · exact isPlain_of_block (show (0x1161, 0x1175) ∈ settledBlocks by decide) (by dsimp only; omega)
    · exact isPlain_of_block (show (0x11A8, 0x11C2) ∈ settledBlocks by decide) (by dsimp only; omega)

theorem char?_of_isPlain (h : IsPlain c.toNat) : char? c = some [c] := by
  obtain ⟨hcapital, hrefused, hignored, hreplaced⟩ := isPlain_iff.1 h
  rw [char?]
  split
  · have hlower : Ascii.lowerChar c = c := by
      rw [← Char.toNat_inj, Ascii.toNat_lowerChar, if_neg hcapital]
    rw [hlower]
  · have hr := CodeTable.find?_eq_none_of_not_covered hrefused
    have hi := CodeTable.find?_eq_none_of_not_covered hignored
    rw [CodeTable.contains, CodeTable.contains, hr, hi,
      CodeTable.find?_eq_none_of_not_covered hreplaced]
    rfl

theorem isPlain_of_ascii (h : n < 128) (hcapital : ¬ (0x41 ≤ n ∧ n ≤ 0x5A)) : IsPlain n := by
  by_cases hlow : n ≤ 0x40
  · exact isPlain_of_block (show (0, 0x40) ∈ settledBlocks by decide) ⟨Nat.zero_le n, hlow⟩
  · exact isPlain_of_block (show (0x5B, 0x7F) ∈ settledBlocks by decide) (by dsimp only; omega)

theorem isPlain_standIn {r : CodeRange (List Nat)} (hr : r ∈ replaced.ranges) (hn : r.Covers n)
    {m : Nat} (hm : m ∈ r.value) : IsPlain (Char.ofNat (m + (n - r.first))).toNat := by
  by_cases hvalid : (m + (n - r.first)).isValidChar
  · rw [Utf8.toNat_ofNat_of_valid hvalid]
    refine isPlain_of_settled (List.mem_append_right _ (List.mem_flatMap.2
      ⟨r, Array.mem_toList_iff.2 hr, List.mem_map_of_mem hm⟩)) ?_
    have := hn.1
    have := hn.2
    dsimp only
    omega
  · rw [Char.ofNat, dif_neg hvalid]
    exact isPlain_of_ascii (by decide) (by decide)

/-- What stands for a character stands for itself. -/
theorem isPlain_of_char? (h : char? c = some ds) : ∀ d ∈ ds, IsPlain d.toNat := by
  rw [char?] at h
  split at h
  · next hascii =>
      obtain rfl := Option.some.inj h
      intro d hd
      rw [List.mem_singleton.1 hd]
      refine isPlain_of_ascii ((Ascii.toNat_lowerChar_lt_iff c).2 hascii) ?_
      rw [Ascii.toNat_lowerChar]
      split <;> omega
  · next hlarge =>
      split at h
      · cases h
      · next hrefused =>
          split at h
          · obtain rfl := Option.some.inj h
            exact nofun
          · next hignored =>
              split at h
              · next r hr =>
                  obtain ⟨hmem, hcovers⟩ := CodeTable.find?_sound hr
                  obtain rfl := Option.some.inj h
                  intro d hd
                  obtain ⟨m, hm, rfl⟩ := List.mem_map.1 hd
                  exact isPlain_standIn hmem hcovers hm
              · next hreplaced =>
                  -- In no table: the tables are in order, so the search would have met it.
                  obtain rfl := Option.some.inj h
                  intro d hd
                  rw [List.mem_singleton.1 hd]
                  simp only [CodeTable.contains, Option.not_isSome_iff_eq_none] at hrefused hignored
                  exact isPlain_iff.2 ⟨by omega, (CodeTable.find?_eq_none_iff isAscending_refused).1 hrefused,
                    (CodeTable.find?_eq_none_iff isAscending_ignored).1 hignored,
                    (CodeTable.find?_eq_none_iff isAscending_replaced).1 hreplaced⟩

theorem text?_cons (c : Char) (cs : List Char) :
    text? (c :: cs) = (char? c).bind fun ds => (text? cs).map (ds ++ ·) := by
  rw [text?, text?, List.mapM_cons]
  cases char? c with
  | none => rfl
  | some ds =>
      cases cs.mapM char? <;> rfl

theorem text?_of_isPlain (h : ∀ c ∈ cs, IsPlain c.toNat) : text? cs = some cs := by
  induction cs with
  | nil => rfl
  | cons c cs ih =>
      obtain ⟨hc, hcs⟩ := List.forall_mem_cons.1 h
      rw [text?_cons, char?_of_isPlain hc, ih hcs]
      rfl

theorem isPlain_of_text? (h : text? cs = some ds) : ∀ d ∈ ds, IsPlain d.toNat := by
  induction cs generalizing ds with
  | nil =>
      obtain rfl := Option.some.inj h
      exact nofun
  | cons c cs ih =>
      rw [text?_cons] at h
      obtain ⟨es, hes, h⟩ := Option.bind_eq_some_iff.1 h
      obtain ⟨fs, hfs, rfl⟩ := Option.map_eq_some_iff.1 h
      intro d hd
      rcases List.mem_append.1 hd with hd | hd
      · exact isPlain_of_char? hes d hd
      · exact ih hfs d hd

end Url.Mapping

end AuthGateway
