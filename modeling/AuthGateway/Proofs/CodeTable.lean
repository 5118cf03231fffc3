import AuthGateway.Text.CodeTable

/-!
Tables by code points. Where the ranges are in ascending order, bisection finds the
range of a code point if there is one. Sets of code points are compared as the bits of
numbers.
-/
namespace AuthGateway

namespace CodeRange

variable {α : Type}

def Covers (r : CodeRange α) (n : Nat) : Prop :=
  r.first ≤ n ∧ n ≤ r.last

end CodeRange

namespace CodeTable

variable {α : Type} {t : CodeTable α} {n : Nat} {r : CodeRange α}

/-! The order of the ranges. -/

/-- Ranges from a code point on, of which each lies behind the one in front of it. -/
def ascendFrom (n : Nat) : List (CodeRange α) → Bool
  | [] => true
  | r :: rest => n ≤ r.first && r.first ≤ r.last && ascendFrom (r.last + 1) rest

def IsAscending (t : CodeTable α) : Prop :=
  ascendFrom 0 t.ranges.toList = true

instance (t : CodeTable α) : Decidable t.IsAscending :=
  inferInstanceAs (Decidable (_ = true))

theorem bounds_of_ascendFrom {rs : List (CodeRange α)} (h : ascendFrom n rs = true) :
    ∀ r ∈ rs, n ≤ r.first ∧ r.first ≤ r.last := by
  induction rs generalizing n with
  | nil => simp
  | cons r rest ih =>
      simp only [ascendFrom, Bool.and_eq_true, decide_eq_true_eq] at h
      obtain ⟨⟨hfirst, hlast⟩, hrest⟩ := h
      refine List.forall_mem_cons.2 ⟨⟨hfirst, hlast⟩, fun s hs => ?_⟩
      have := ih hrest s hs
      omega

theorem pairwise_of_ascendFrom {rs : List (CodeRange α)} (h : ascendFrom n rs = true) :
    rs.Pairwise fun r s => r.last < s.first := by
  induction rs generalizing n with
  | nil => exact List.Pairwise.nil
  | cons r rest ih =>
      simp only [ascendFrom, Bool.and_eq_true, decide_eq_true_eq] at h
      exact List.pairwise_cons.2 ⟨fun s hs => (bounds_of_ascendFrom h.2 s hs).1, ih h.2⟩

theorem IsAscending.first_le_last (h : t.IsAscending) (hr : r ∈ t.ranges) : r.first ≤ r.last :=
  (bounds_of_ascendFrom h r (Array.mem_toList_iff.2 hr)).2

theorem IsAscending.lt (h : t.IsAscending) {i j : Nat} {r s : CodeRange α}
    (hr : t.ranges[i]? = some r) (hs : t.ranges[j]? = some s) (hij : i < j) :
    r.last < s.first := by
  obtain ⟨hi, rfl⟩ := Array.getElem?_eq_some_iff.1 hr
  obtain ⟨hj, rfl⟩ := Array.getElem?_eq_some_iff.1 hs
  exact List.pairwise_iff_getElem.1 (pairwise_of_ascendFrom h) i j hi hj hij

/-! Bisection. -/

theorem findBetween?_sound {low high : Nat} (h : t.findBetween? n low high = some r) :
    r ∈ t.ranges ∧ r.Covers n := by
  fun_induction t.findBetween? n low high with
  | case1 => cases h
  | case2 low high hlt middle s hs hbefore ih => exact ih h
  | case3 low high hlt middle s hs _ hbehind ih => exact ih h
  | case4 low high hlt middle s hs hbefore hbehind =>
      obtain rfl := Option.some.inj h
      exact ⟨Array.mem_of_getElem? hs, Nat.not_lt.1 hbefore, Nat.not_lt.1 hbehind⟩
  | case5 => cases h

/-- Bisection finds a range between its bounds: whichever half is dropped, the range is in the
other. -/
theorem findBetween?_complete (ht : t.IsAscending) {i low high : Nat} (hi : t.ranges[i]? = some r)
    (hlow : low ≤ i) (hhigh : i < high) (hsize : high ≤ t.ranges.size) (h : r.Covers n) :
    t.findBetween? n low high = some r := by
  fun_induction t.findBetween? n low high with
  | case1 low high hlt middle hnone =>
      rw [Array.getElem?_eq_none_iff] at hnone
      omega
  | case2 low high hlt middle s hs hbefore ih =>
      -- the middle range starts behind the code point, so that the one looked for is in front
      refine ih hlow (Nat.lt_of_not_le fun hle => ?_) (by omega)
      rcases Nat.lt_or_eq_of_le hle with hmiddle | rfl
      · have := ht.lt hs hi hmiddle
        have := ht.first_le_last (Array.mem_of_getElem? hs)
        have := h.1
        omega
      · obtain rfl := Option.some.inj (hs.symm.trans hi)
        exact absurd h.1 (Nat.not_le.2 hbefore)
  | case3 low high hlt middle s hs _ hbehind ih =>
      -- the middle range ends before the code point, so that the one looked for is behind
      refine ih (Nat.lt_of_not_le fun hle => ?_) hhigh hsize
      rcases Nat.lt_or_eq_of_le hle with hmiddle | rfl
      · have := ht.lt hi hs hmiddle
        have := ht.first_le_last (Array.mem_of_getElem? hs)
        have := h.2
        omega
      · obtain rfl := Option.some.inj (hs.symm.trans hi)
        exact absurd h.2 (Nat.not_le.2 hbehind)
  | case4 low high hlt middle s hs hbefore hbehind =>
      -- no two ranges share a code point
      rcases Nat.lt_trichotomy i middle with hlt | rfl | hgt
      · have := ht.lt hi hs hlt
        have := h.2
        omega
      · exact hs.symm.trans hi
      · have := ht.lt hs hi hgt
        have := h.1
        omega
  | case5 low high hge => omega

theorem find?_sound (h : t.find? n = some r) : r ∈ t.ranges ∧ r.Covers n :=
  findBetween?_sound h

theorem find?_complete (ht : t.IsAscending) (hr : r ∈ t.ranges) (h : r.Covers n) :
    t.find? n = some r := by
  obtain ⟨i, hi⟩ := Array.mem_iff_getElem?.1 hr
  obtain ⟨hlt, -⟩ := Array.getElem?_eq_some_iff.1 hi
  exact findBetween?_complete ht hi (Nat.zero_le i) hlt (Nat.le_refl _) h

theorem find?_eq_none_of_not_covered (h : ∀ r ∈ t.ranges, ¬ r.Covers n) : t.find? n = none := by
  cases hfind : t.find? n with
  | none => rfl
  | some r =>
      obtain ⟨hr, hcovers⟩ := find?_sound hfind
      exact absurd hcovers (h r hr)

theorem find?_eq_none_iff (ht : t.IsAscending) :
    t.find? n = none ↔ ∀ r ∈ t.ranges, ¬ r.Covers n := by
  refine ⟨fun hnone r hr hcovers => ?_, find?_eq_none_of_not_covered⟩
  rw [find?_complete ht hr hcovers] at hnone
  cases hnone

/-- No range of a table has to do with the code points between two. -/
def avoids (t : CodeTable α) (low high : Nat) : Bool :=
  t.ranges.toList.all fun r => r.last < low || high < r.first

theorem not_covers_of_avoids {low high : Nat} (h : t.avoids low high = true)
    (hn : low ≤ n ∧ n ≤ high) : ∀ r ∈ t.ranges, ¬ r.Covers n := by
  intro r hr hcovers
  have hr := List.all_eq_true.1 h r (Array.mem_toList_iff.2 hr)
  simp only [Bool.or_eq_true, decide_eq_true_eq] at hr
  have := hcovers.1
  have := hcovers.2
  omega

theorem find?_eq_none_of_avoids {low high : Nat} (h : t.avoids low high = true)
    (hn : low ≤ n ∧ n ≤ high) : t.find? n = none :=
  find?_eq_none_of_not_covered (not_covers_of_avoids h hn)

/-! Sets of code points. -/

def rangeBits (r : Nat × Nat) : Nat :=
  ((1 <<< (r.2 + 1 - r.1)) - 1) <<< r.1

def withBits (m : Nat) : List (Nat × Nat) → Nat
  | [] => m
  -- The test is there to have the sum so far evaluated.
  | r :: rest => if m = 0 then withBits (rangeBits r) rest else withBits (m ||| rangeBits r) rest

def bits (ranges : List (Nat × Nat)) : Nat :=
  withBits 0 ranges

def spans (t : CodeTable α) : List (Nat × Nat) :=
  t.ranges.toList.map fun r => (r.first, r.last)

theorem testBit_rangeBits (r : Nat × Nat) (n : Nat) :
    (rangeBits r).testBit n = true ↔ r.1 ≤ n ∧ n ≤ r.2 := by
  rw [rangeBits, Nat.one_shiftLeft, Nat.testBit_shiftLeft, Nat.testBit_two_pow_sub_one]
  simp only [Bool.and_eq_true, decide_eq_true_eq]
  omega

theorem testBit_withBits (m : Nat) (ranges : List (Nat × Nat)) (n : Nat) :
    (withBits m ranges).testBit n = true ↔
      m.testBit n = true ∨ ∃ r ∈ ranges, r.1 ≤ n ∧ n ≤ r.2 := by
  induction ranges generalizing m with
  | nil => simp [withBits]
  | cons r rest ih =>
      rw [withBits]
      split
      · next hzero =>
          rw [ih, testBit_rangeBits, hzero]
          simp
      · rw [ih, Nat.testBit_or, Bool.or_eq_true, testBit_rangeBits]
        simp [or_assoc]

theorem testBit_bits {ranges : List (Nat × Nat)} {n : Nat} :
    (bits ranges).testBit n = true ↔ ∃ r ∈ ranges, r.1 ≤ n ∧ n ≤ r.2 := by
  rw [bits, testBit_withBits]
  simp

theorem exists_span_iff (t : CodeTable α) (n : Nat) :
    (∃ s ∈ t.spans, s.1 ≤ n ∧ n ≤ s.2) ↔ ∃ r ∈ t.ranges, r.Covers n := by
  constructor
  · rintro ⟨s, hs, hn⟩
    obtain ⟨r, hr, rfl⟩ := List.mem_map.1 hs
    exact ⟨r, Array.mem_toList_iff.1 hr, hn⟩
  · rintro ⟨r, hr, hn⟩
    exact ⟨_, List.mem_map_of_mem (Array.mem_toList_iff.2 hr), hn⟩

end CodeTable

end AuthGateway
