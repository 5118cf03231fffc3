import AuthGateway.Proofs.Text
import AuthGateway.Url.Punycode
import Mathlib.Algebra.Group.Nat.Defs

/-!
Punycode. A label that is encoded is decoded again. A reader that has inserted some of
the characters of a label, and a writer that has written them, are the same number of
steps away from each character that is left; distances are read back as long as all
numbers on the way fit 32 bits, which they do for labels of usual length.
-/
namespace AuthGateway

namespace Url.Punycode

/-! Digits. -/

theorem digitValue?_digitChar {d : Nat} (h : d < 36) : digitValue? (digitChar d) = some d := by
  have hall : ∀ d < 36, digitValue? (digitChar d) = some d := by decide
  exact hall d h

def IsDigitChar (c : Char) : Prop :=
  97 ≤ c.toNat ∧ c.toNat ≤ 122 ∨ 48 ≤ c.toNat ∧ c.toNat ≤ 57

instance (c : Char) : Decidable (IsDigitChar c) :=
  inferInstanceAs (Decidable (_ ∨ _))

theorem isDigitChar_digitChar {d : Nat} (h : d < 36) : IsDigitChar (digitChar d) := by
  have hall : ∀ d < 36, IsDigitChar (digitChar d) := by decide
  exact hall d h

theorem threshold_bounds (place bias : Nat) :
    1 ≤ threshold place bias ∧ threshold place bias ≤ 26 := by
  rw [threshold]
  split
  · omega
  · split <;> omega

theorem threshold_of_high {place bias : Nat} (h : bias + 26 ≤ place) :
    threshold place bias = 26 := by
  rw [threshold, if_neg (by omega), if_pos h]

theorem isDigitChar_of_mem_distanceChars {c : Char} {q place bias n : Nat}
    (h : c ∈ distanceChars q place bias n) : IsDigitChar c := by
  induction n generalizing q place with
  | zero => cases h
  | succ n ih =>
      have ht := threshold_bounds place bias
      simp only [distanceChars] at h
      split at h
      · rw [List.mem_singleton.1 h]
        exact isDigitChar_digitChar (by omega)
      · rcases List.mem_cons.1 h with rfl | h
        · have := Nat.mod_lt (q - threshold place bias) (show 0 < 36 - threshold place bias by omega)
          exact isDigitChar_digitChar (by omega)
        · exact ih h

/-- The weight of a digit fits 32 bits, and at the first places it is a small power. -/
def IsWeight (weight place : Nat) : Prop :=
  weight < UInt32.size ∧ (242 ≤ place ∨ ∃ j ≤ 5, place = 36 * (j + 1) ∧ weight ≤ 35 ^ j)

theorem isWeight_one : IsWeight 1 36 :=
  ⟨by decide, .inr ⟨0, by decide, by decide, by decide⟩⟩

/-- Where a digit is not the last one, the next has a weight that fits too. -/
theorem isWeight_next {weight place bias q : Nat} (hbias : bias < 216) (h : IsWeight weight place)
    (hq : threshold place bias ≤ q) (hfits : q * weight < UInt32.size) :
    IsWeight (weight * (36 - threshold place bias)) (place + 36) := by
  have ht := threshold_bounds place bias
  have hsize : UInt32.size = 4294967296 := rfl
  rcases h.2 with hhigh | ⟨j, hj, rfl, hpow⟩
  · have hthreshold := threshold_of_high (show bias + 26 ≤ place by omega)
    rw [hthreshold] at hq ⊢
    have hle : 26 * weight ≤ q * weight := Nat.mul_le_mul_right weight hq
    exact ⟨by omega, .inl (by omega)⟩
  · have hstep : weight * (36 - threshold (36 * (j + 1)) bias) ≤ 35 ^ j * 35 :=
      Nat.mul_le_mul hpow (by omega)
    have hsmall : 35 ^ (j + 1) ≤ 35 ^ 6 := Nat.pow_le_pow_right (by decide) (by omega)
    rw [Nat.pow_succ] at hsmall
    refine ⟨by omega, ?_⟩
    rcases Nat.lt_or_eq_of_le hj with hlt | rfl
    · exact .inr ⟨j + 1, hlt, by omega, by rwa [Nat.pow_succ]⟩
    · exact .inl (by decide)

theorem distance?_cons {bias i weight place d : Nat} (hd : d < 36) (hweight : weight < UInt32.size)
    (hfits : i + d * weight < UInt32.size) (rest : List Char) :
    distance? bias i weight place (digitChar d :: rest) =
      if d < threshold place bias then some (i + d * weight, rest)
      else distance? bias (i + d * weight) (weight * (36 - threshold place bias)) (place + 36)
        rest := by
  simp only [distance?, digitValue?_digitChar hd]
  exact if_neg (by omega)

/-- A distance is read back from its digits. -/
theorem distance?_distanceChars {q place bias n i weight : Nat} (hbias : bias < 216)
    (hn : q < 10 ^ n) (hweight : IsWeight weight place) (hfits : i + q * weight < UInt32.size)
    (tail : List Char) :
    distance? bias i weight place (distanceChars q place bias (n + 1) ++ tail) =
      some (i + q * weight, tail) := by
  induction n generalizing q place i weight with
  | zero =>
      have hzero : q = 0 := by omega
      have ht := threshold_bounds place bias
      rw [distanceChars]
      rw [if_pos (by omega), List.singleton_append, distance?_cons (by omega) hweight.1 hfits,
        if_pos (by omega)]
  | succ n ih =>
      have ht := threshold_bounds place bias
      rw [distanceChars]
      split
      · next hlast =>
          rw [List.singleton_append, distance?_cons (by omega) hweight.1 hfits, if_pos hlast]
      · next hnot =>
          -- The digits behind the first make the rest of the distance, in a greater weight.
          have hnext := isWeight_next hbias hweight (Nat.not_lt.1 hnot) (by omega)
          generalize hthreshold : threshold place bias = t at *
          have hmod := Nat.mod_lt (q - t) (show 0 < 36 - t by omega)
          have hsplit : q = t + (q - t) % (36 - t) + (36 - t) * ((q - t) / (36 - t)) := by
            have := Nat.mod_add_div (q - t) (36 - t)
            omega
          have htotal : i + q * weight = i + (t + (q - t) % (36 - t)) * weight +
              (q - t) / (36 - t) * (weight * (36 - t)) := by
            have hproduct := congrArg (· * weight) hsplit
            simp only [Nat.add_mul] at hproduct ⊢
            rw [hproduct, Nat.mul_comm (36 - t) ((q - t) / (36 - t)), Nat.mul_assoc _ (36 - t) weight,
              Nat.mul_comm (36 - t) weight]
            omega
          have hsmaller : (q - t) / (36 - t) < 10 ^ n := by
            have hle : 10 * 10 ^ n ≤ (36 - t) * 10 ^ n := Nat.mul_le_mul_right _ (by omega)
            rw [Nat.pow_succ] at hn
            exact Nat.div_lt_of_lt_mul (by omega)
          rw [List.cons_append, distance?_cons (by omega) hweight.1 (by omega), hthreshold,
            if_neg (by omega), ih hsmaller hnext (by omega), htotal]

theorem distanceChars_ne_nil (q place bias n : Nat) : distanceChars q place bias (n + 1) ≠ [] := by
  rw [distanceChars]
  split
  · exact List.cons_ne_nil _ _
  · exact List.cons_ne_nil _ _

/-! The bias. -/

theorem scaleDown_bounds (delta place : Nat) : (scaleDown delta place).1 ≤ 455 ∧
    ∀ k, delta < 456 * 35 ^ k → (scaleDown delta place).2 ≤ place + 36 * k := by
  fun_induction scaleDown delta place with
  | case1 delta place hlarge ih =>
      refine ⟨ih.1, fun k hk => ?_⟩
      cases k with
      | zero => omega
      | succ k =>
          rw [Nat.pow_succ, ← Nat.mul_assoc] at hk
          have := ih.2 k (Nat.div_lt_of_lt_mul (by omega))
          omega
  | case2 delta place hsmall => exact ⟨Nat.not_lt.1 hsmall, fun k _ => by omega⟩

/-- A bias is small, however large the distance. -/
theorem adapt_lt {delta : Nat} (h : delta < UInt32.size) (count : Nat) (first : Bool) :
    adapt delta count first < 216 := by
  rw [adapt]
  generalize hhalved : (if first then delta / 700 else delta / 2) = halved
  have hle : 2 * halved ≤ delta := by
    rw [← hhalved]
    split <;> omega
  have hcount : halved / count ≤ halved := Nat.div_le_self _ _
  have hsize : UInt32.size = 4294967296 := rfl
  obtain ⟨hd, hplace⟩ := scaleDown_bounds (halved + halved / count) 0
  have hplace := hplace 5 (by omega)
  have hlast : 36 * (scaleDown (halved + halved / count) 0).1 /
      ((scaleDown (halved + halved / count) 0).1 + 38) < 36 :=
    Nat.div_lt_of_lt_mul (by omega)
  dsimp only
  omega

/-! Writer and reader. -/

/-- The writer stands at a code point, behind so many of the characters that the
reader has; both are the same number of steps away. -/
structure InStep (basic : Nat) (out : List Char) (m place : Nat) (writer reader : State) : Prop where
  steps : reader.next * (out.length + 1) + reader.delta + writer.delta =
    m * (out.length + 1) + place
  next : reader.next ≤ m
  place : place ≤ out.length
  bias : reader.bias = writer.bias
  biasSmall : writer.bias < 216
  written : writer.count = out.length
  inserted : reader.count + basic = writer.count
  started : reader.count = 0 → reader.delta = 0

variable {basic m place : Nat} {out : List Char} {w r : State}

/-- The distance that the writer writes leads the reader to the character. -/
theorem decodeFrom_distance {c : Char} (h : InStep basic out c.toNat place w r)
    (hfits : c.toNat * (out.length + 1) + place < UInt32.size) (tail : List Char) (fuel : Nat) :
    decodeFrom out r (distanceChars w.delta 36 w.bias 40 ++ tail) (fuel + 1) =
      decodeFrom (out.take place ++ c :: out.drop place)
        ⟨c.toNat, place + 1, adapt w.delta (w.count + 1) (w.count == basic), r.count + 1⟩
        tail fuel := by
  have hsize : UInt32.size = 4294967296 := rfl
  have hsteps := h.steps
  have hmul : r.next * (out.length + 1) ≤ c.toNat * (out.length + 1) :=
    Nat.mul_le_mul_right _ h.next
  -- The count that the reader divides: how many code points it goes on, and the place.
  have hi : r.delta + w.delta = (c.toNat - r.next) * (out.length + 1) + place := by
    rw [Nat.sub_mul]
    omega
  have hdistance : distance? r.bias r.delta 1 36 (distanceChars w.delta 36 w.bias 40 ++ tail) =
      some (r.delta + w.delta, tail) := by
    have hread : distance? w.bias r.delta 1 36 (distanceChars w.delta 36 w.bias (39 + 1) ++ tail) =
        some (r.delta + w.delta * 1, tail) :=
      distance?_distanceChars h.biasSmall (by omega) isWeight_one (by omega) tail
    rw [h.bias, hread, Nat.mul_one]
  have hempty : (distanceChars w.delta 36 w.bias 40 ++ tail).isEmpty = false := by
    rw [List.isEmpty_eq_false_iff]
    exact List.append_ne_nil_of_left_ne_nil (distanceChars_ne_nil _ _ _ 39) _
  have hplace := h.place
  have hquotient : (r.delta + w.delta) / (out.length + 1) = c.toNat - r.next := by
    rw [hi, Nat.mul_comm, Nat.mul_add_div (Nat.succ_pos _), Nat.div_eq_of_lt (by omega), Nat.add_zero]
  have hremainder : (r.delta + w.delta) % (out.length + 1) = place := by
    rw [hi, Nat.mul_comm, Nat.mul_add_mod, Nat.mod_eq_of_lt (by omega)]
  have hcode : r.next + (c.toNat - r.next) = c.toNat := by
    have := h.next
    omega
  have hvalid : ¬ (0x10FFFF < c.toNat ∨ (0xD800 ≤ c.toNat ∧ c.toNat ≤ 0xDFFF)) := by
    have hc : c.toNat < 0xD800 ∨ 0xDFFF < c.toNat ∧ c.toNat < 0x110000 := c.valid
    omega
  have hfirst : (r.delta == 0 && r.count == 0) = (w.count == basic) := by
    have hinserted := h.inserted
    have hstarted := h.started
    rw [Bool.eq_iff_iff, Bool.and_eq_true, beq_iff_eq, beq_iff_eq, beq_iff_eq]
    omega
  simp only [decodeFrom, hempty, hdistance, Bool.false_eq_true, if_false]
  simp only [bind, Option.bind, hquotient, hremainder, hcode, hvalid, if_false, Char.ofNat_toNat,
    Nat.add_sub_cancel_left, h.written, hfirst]

theorem InStep.pass (h : InStep basic out m place w r) (hplace : place < out.length) :
    InStep basic out m (place + 1) { w with delta := w.delta + 1 } r where
  steps := by
    have := h.steps
    dsimp only
    omega
  next := h.next
  place := hplace
  bias := h.bias
  biasSmall := h.biasSmall
  written := h.written
  inserted := h.inserted
  started := h.started

/-- Reader and writer stay in step when a character is inserted. -/
theorem InStep.insert (h : InStep basic out m place w r) (hfits : w.delta < UInt32.size) (c : Char) :
    InStep basic (out.take place ++ c :: out.drop place) m (place + 1)
      { w with delta := 0, bias := adapt w.delta (w.count + 1) (w.count == basic), count := w.count + 1 }
      ⟨m, place + 1, adapt w.delta (w.count + 1) (w.count == basic), r.count + 1⟩ where
  steps := rfl
  next := Nat.le_refl m
  place := by
    have := h.place
    simp only [List.length_append, List.length_cons, List.length_take, List.length_drop]
    omega
  bias := rfl
  biasSmall := adapt_lt hfits _ _
  written := by
    have := h.place
    have := h.written
    simp only [List.length_append, List.length_cons, List.length_take, List.length_drop]
    omega
  inserted := by
    have := h.inserted
    dsimp only
    omega
  started := nofun

/-- The characters that are written when the writer of a code point stands between two
parts of a label. -/
def reached (m : Nat) (pre rest : List Char) : List Char :=
  pre.filter (·.toNat ≤ m) ++ rest.filter (·.toNat < m)

theorem encodeStep_append (basic m : Nat) (out : List Char) (w : State) (c : Char) :
    encodeStep basic m (out, w) c =
      (out ++ (encodeStep basic m ([], w) c).1, (encodeStep basic m ([], w) c).2) := by
  simp only [encodeStep]
  split
  · simp
  · split <;> simp

theorem foldl_encodeStep_append (basic m : Nat) (xs : List Char) (out : List Char) (w : State) :
    xs.foldl (encodeStep basic m) (out, w) =
      (out ++ (xs.foldl (encodeStep basic m) ([], w)).1,
        (xs.foldl (encodeStep basic m) ([], w)).2) := by
  induction xs generalizing out w with
  | nil => simp
  | cons c xs ih =>
      rw [List.foldl_cons, encodeStep_append, ih, List.foldl_cons]
      rw [show encodeStep basic m ([], w) c =
        ((encodeStep basic m ([], w) c).1, (encodeStep basic m ([], w) c).2) from rfl,
        ih (encodeStep basic m ([], w) c).1]
      simp

/-- What the writer of a code point does with a part of a label. -/
def pass (basic m : Nat) (w : State) (xs : List Char) : List Char × State :=
  xs.foldl (encodeStep basic m) ([], w)

theorem pass_cons {basic m : Nat} {w w' : State} {c : Char} {out : List Char}
    (h : encodeStep basic m ([], w) c = (out, w')) (xs : List Char) :
    pass basic m w (c :: xs) = (out ++ (pass basic m w' xs).1, (pass basic m w' xs).2) := by
  rw [pass, List.foldl_cons, h]
  exact foldl_encodeStep_append basic m xs out w'

section Steps

variable {m : Nat} {w : State} {c : Char} (xs : List Char)

theorem pass_cons_of_lt (h : c.toNat < m) :
    pass basic m w (c :: xs) = pass basic m { w with delta := w.delta + 1 } xs := by
  have hstep : encodeStep basic m ([], w) c = ([], { w with delta := w.delta + 1 }) := by
    simp [encodeStep, h]
  rw [pass_cons hstep, List.nil_append]

def State.written (basic : Nat) (w : State) : State :=
  { w with
    delta := 0
    bias := adapt w.delta (w.count + 1) (w.count == basic)
    count := w.count + 1 }

theorem pass_cons_of_eq (h : c.toNat = m) :
    pass basic m w (c :: xs) =
      (distanceChars w.delta 36 w.bias 40 ++ (pass basic m (w.written basic) xs).1,
        (pass basic m (w.written basic) xs).2) := by
  have hstep : encodeStep basic m ([], w) c =
      (distanceChars w.delta 36 w.bias 40, w.written basic) := by
    simp [encodeStep, h, State.written]
  exact pass_cons hstep xs

theorem pass_cons_of_gt (h : m < c.toNat) : pass basic m w (c :: xs) = pass basic m w xs := by
  have hstep : encodeStep basic m ([], w) c = ([], w) := by
    simp [encodeStep, Nat.not_lt.2 (Nat.le_of_lt h), Nat.ne_of_gt h]
  rw [pass_cons hstep, List.nil_append]

end Steps

theorem length_reached_le (m : Nat) (pre rest : List Char) :
    (reached m pre rest).length ≤ (pre ++ rest).length := by
  rw [reached, List.length_append, List.length_append]
  exact Nat.add_le_add (List.length_filter_le _ _) (List.length_filter_le _ _)

/-- The reader follows the writer of a code point through a label. -/
theorem decodeFrom_pass {rest pre : List Char} {w r : State}
    (h : InStep basic (reached m pre rest) m (pre.filter (·.toNat ≤ m)).length w r)
    (hfits : m * ((pre ++ rest).length + 1) + (pre ++ rest).length < UInt32.size)
    (tail : List Char) {fuel : Nat} (hfuel : ((pass basic m w rest).1 ++ tail).length < fuel) :
    ∃ r' fuel', tail.length < fuel' ∧
      InStep basic ((pre ++ rest).filter (·.toNat ≤ m)) m
        ((pre ++ rest).filter (·.toNat ≤ m)).length (pass basic m w rest).2 r' ∧
      decodeFrom (reached m pre rest) r ((pass basic m w rest).1 ++ tail) fuel =
        decodeFrom ((pre ++ rest).filter (·.toNat ≤ m)) r' tail fuel' := by
  induction rest generalizing pre w r fuel with
  | nil =>
      have hreached : reached m pre [] = pre.filter (·.toNat ≤ m) := List.append_nil _
      rw [hreached] at h ⊢
      rw [List.append_nil]
      exact ⟨r, fuel, hfuel, h, rfl⟩
  | cons c rest ih =>
      have hpre : pre ++ c :: rest = pre ++ [c] ++ rest := by simp
      have hlength := length_reached_le m pre (c :: rest)
      rw [hpre] at hlength hfits ⊢
      rcases Nat.lt_trichotomy c.toNat m with hlt | heq | hgt
      · have hreached : reached m pre (c :: rest) = reached m (pre ++ [c]) rest := by
          simp [reached, hlt, Nat.le_of_lt hlt]
        have hfilter : ((pre ++ [c]).filter (·.toNat ≤ m)).length =
            (pre.filter (·.toNat ≤ m)).length + 1 := by
          simp [Nat.le_of_lt hlt]
        rw [pass_cons_of_lt _ hlt] at hfuel ⊢
        rw [hreached] at h ⊢
        refine ih ?_ hfits hfuel
        rw [hfilter]
        refine h.pass ?_
        rw [reached, List.length_append, hfilter]
        omega
      · -- The only case in which something is written: the reader takes one step, and the
        -- character lands where the writer stands.
        subst heq
        generalize hfront : (pre.filter (·.toNat ≤ c.toNat)) = front at h
        have hreached : reached c.toNat (pre ++ [c]) rest =
            (reached c.toNat pre (c :: rest)).take front.length ++
              c :: (reached c.toNat pre (c :: rest)).drop front.length := by
          simp [reached, ← hfront]
        have hfilter : ((pre ++ [c]).filter (·.toNat ≤ c.toNat)).length = front.length + 1 := by
          simp [← hfront]
        have hplace := h.place
        have hsteps := h.steps
        have hbound : c.toNat * ((reached c.toNat pre (c :: rest)).length + 1) + front.length <
            UInt32.size := by
          have hle := Nat.mul_le_mul_left c.toNat (Nat.add_le_add_right hlength 1)
          omega
        rw [pass_cons_of_eq _ rfl] at hfuel ⊢
        dsimp only at hfuel ⊢
        rw [List.append_assoc (distanceChars _ _ _ _)] at hfuel ⊢
        cases fuel with
        | zero => cases hfuel
        | succ fuel =>
            rw [decodeFrom_distance h hbound, ← hreached]
            refine ih ?_ hfits ?_
            · rw [hfilter, hreached]
              exact h.insert (by omega) c
            · have : 0 < (distanceChars w.delta 36 w.bias 40).length :=
                List.length_pos_iff.2 (distanceChars_ne_nil w.delta 36 w.bias 39)
              rw [List.length_append] at hfuel
              omega
      · have hreached : reached m pre (c :: rest) = reached m (pre ++ [c]) rest := by
          simp [reached, Nat.not_lt.2 (Nat.le_of_lt hgt), Nat.not_le.2 hgt]
        have hfilter : (pre ++ [c]).filter (·.toNat ≤ m) = pre.filter (·.toNat ≤ m) := by
          simp [Nat.not_le.2 hgt]
        rw [pass_cons_of_gt _ hgt] at hfuel ⊢
        rw [hreached] at h ⊢
        rw [← hfilter] at h
        exact ih h hfits hfuel

/-! Labels. -/

/-- The least code point that is left on. -/
theorem min?_of_left {label : List Char} {next m : Nat}
    (h : ((label.map Char.toNat).filter (next ≤ ·)).min? = some m) :
    next ≤ m ∧ (∃ c ∈ label, c.toNat = m) ∧ ∀ c ∈ label, c.toNat < next ∨ m ≤ c.toNat := by
  rw [List.min?_eq_some_iff] at h
  obtain ⟨hmem, hleast⟩ := h
  simp only [List.mem_filter, List.mem_map, decide_eq_true_eq] at hmem hleast
  refine ⟨hmem.2, hmem.1, fun c hc => ?_⟩
  rcases Nat.lt_or_ge c.toNat next with hlt | hge
  · exact .inl hlt
  · exact .inr (hleast c.toNat ⟨⟨c, hc, rfl⟩, hge⟩)

theorem filter_lt_of_none_left {label : List Char} {next : Nat}
    (h : label.filter (next ≤ ·.toNat) = []) : label.filter (·.toNat < next) = label := by
  refine List.filter_eq_self.2 fun c hc => ?_
  have := List.filter_eq_nil_iff.1 h c hc
  simpa using this

theorem decodeFrom_nil (out : List Char) (r : State) {fuel : Nat} (h : 0 < fuel) :
    decodeFrom out r [] fuel = some out := by
  cases fuel with
  | zero => cases h
  | succ fuel => rfl

theorem reached_start {label : List Char} {next m : Nat} (hm : next ≤ m)
    (hleft : ∀ c ∈ label, c.toNat < next ∨ m ≤ c.toNat) :
    reached m [] label = label.filter (·.toNat < next) := by
  refine List.filter_congr fun c hc => ?_
  have := hleft c hc
  simp only [decide_eq_decide]
  omega

/-- The writer moves on to the least code point that is left. -/
theorem InStep.start {label : List Char} {w r : State} {m : Nat}
    (h : InStep basic (label.filter (·.toNat < w.next)) w.next 0 w r) (hm : w.next ≤ m)
    (hleft : ∀ c ∈ label, c.toNat < w.next ∨ m ≤ c.toNat) :
    InStep basic (reached m [] label) m 0
      { w with delta := w.delta + (m - w.next) * (w.count + 1) } r := by
  rw [reached_start hm hleft]
  refine ⟨?_, Nat.le_trans h.next hm, h.place, h.bias, h.biasSmall, h.written, h.inserted, h.started⟩
  have hsteps := h.steps
  have hmul : w.next * ((label.filter (·.toNat < w.next)).length + 1) ≤
      m * ((label.filter (·.toNat < w.next)).length + 1) := Nat.mul_le_mul_right _ hm
  dsimp only
  rw [h.written, Nat.sub_mul]
  omega

theorem filter_lt_succ (label : List Char) (m : Nat) :
    label.filter (·.toNat < m + 1) = label.filter (·.toNat ≤ m) :=
  List.filter_congr fun _ _ => decide_eq_decide.2 Nat.lt_succ_iff

/-- The writer is through with a code point, and stands in front of the next one. -/
theorem InStep.next_code {label : List Char} {w r : State} {m : Nat}
    (h : InStep basic (label.filter (·.toNat ≤ m)) m (label.filter (·.toNat ≤ m)).length w r) :
    InStep basic (label.filter (·.toNat < m + 1)) (m + 1) 0
      { w with next := m + 1, delta := w.delta + 1 } r := by
  rw [filter_lt_succ]
  refine ⟨?_, Nat.le_succ_of_le h.next, Nat.zero_le _, h.bias, h.biasSmall, h.written, h.inserted,
    h.started⟩
  have hsteps := h.steps
  dsimp only
  rw [Nat.succ_mul]
  omega

/-- The reader follows the writer through all code points that are left. -/
theorem decodeFrom_encodeFrom {label : List Char} {n : Nat} {w r : State}
    (hlabel : label.length ≤ 1000)
    (h : InStep basic (label.filter (·.toNat < w.next)) w.next 0 w r)
    (hn : (label.filter (w.next ≤ ·.toNat)).length ≤ n) {fuel : Nat}
    (hfuel : (encodeFrom basic label w n).length < fuel) :
    decodeFrom (label.filter (·.toNat < w.next)) r (encodeFrom basic label w n) fuel = some label := by
  induction n generalizing w r fuel with
  | zero =>
      rw [filter_lt_of_none_left (List.length_eq_zero_iff.1 (Nat.le_zero.1 hn))]
      exact decodeFrom_nil label r (Nat.lt_of_le_of_lt (Nat.zero_le _) hfuel)
  | succ n ih =>
      rw [encodeFrom] at hfuel ⊢
      split at hfuel
      · next hnone =>
          have hleft : label.filter (w.next ≤ ·.toNat) = [] := by
            rw [List.min?_eq_none_iff, List.filter_map, List.map_eq_nil_iff] at hnone
            exact hnone
          rw [filter_lt_of_none_left hleft]
          exact decodeFrom_nil label r (Nat.lt_of_le_of_lt (Nat.zero_le _) hfuel)
      · next m hm =>
          obtain ⟨hnext, ⟨c, hc, rfl⟩, hleft⟩ := min?_of_left hm
          have hstart := h.start hnext hleft
          have hfits : c.toNat * (([] ++ label).length + 1) + ([] ++ label).length < UInt32.size := by
            have hvalid : c.toNat < 0xD800 ∨ 0xDFFF < c.toNat ∧ c.toNat < 0x110000 := c.valid
            have hle : c.toNat * (label.length + 1) ≤ 0x110000 * 1001 :=
              Nat.mul_le_mul (by omega) (by omega)
            have hsize : UInt32.size = 4294967296 := rfl
            rw [List.nil_append]
            omega
          obtain ⟨r', fuel', hfuel', hdone, hread⟩ := decodeFrom_pass hstart hfits _ hfuel
          -- The code point itself is no longer left, which is what the induction counts.
          have hfewer : (label.filter (c.toNat + 1 ≤ ·.toNat)).length ≤ n := by
            have hfilter : label.filter (c.toNat + 1 ≤ ·.toNat) =
                (label.filter (w.next ≤ ·.toNat)).filter (c.toNat + 1 ≤ ·.toNat) := by
              rw [List.filter_filter]
              refine List.filter_congr fun d _ => ?_
              rw [Bool.eq_iff_iff, Bool.and_eq_true, decide_eq_true_eq, decide_eq_true_eq]
              omega
            have hlost : c ∈ label.filter (w.next ≤ ·.toNat) :=
              List.mem_filter.2 ⟨hc, decide_eq_true hnext⟩
            have hlt : ((label.filter (w.next ≤ ·.toNat)).filter (c.toNat + 1 ≤ ·.toNat)).length <
                (label.filter (w.next ≤ ·.toNat)).length :=
              List.length_filter_lt_length_iff_exists.2 ⟨c, hlost, by simp⟩
            rw [hfilter]
            omega
          have hrest := ih hdone.next_code hfewer hfuel'
          rw [← reached_start hnext hleft]
          refine hread.trans ?_
          rw [List.nil_append, ← filter_lt_succ]
          exact hrest

theorem isDigitChar_of_mem_pass {m : Nat} {w : State} {xs : List Char} {c : Char}
    (h : c ∈ (pass basic m w xs).1) : IsDigitChar c := by
  induction xs generalizing w with
  | nil => cases h
  | cons d xs ih =>
      rcases Nat.lt_trichotomy d.toNat m with hlt | heq | hgt
      · rw [pass_cons_of_lt _ hlt] at h
        exact ih h
      · rw [pass_cons_of_eq _ heq] at h
        rcases List.mem_append.1 h with h | h
        · exact isDigitChar_of_mem_distanceChars h
        · exact ih h
      · rw [pass_cons_of_gt _ hgt] at h
        exact ih h

theorem isDigitChar_of_mem_encodeFrom {label : List Char} {w : State} {n : Nat} {c : Char}
    (h : c ∈ encodeFrom basic label w n) : IsDigitChar c := by
  induction n generalizing w with
  | zero => cases h
  | succ n ih =>
      rw [encodeFrom] at h
      split at h
      · cases h
      · rcases List.mem_append.1 h with h | h
        · exact isDigitChar_of_mem_pass h
        · exact ih h

/-- The hyphen behind the ASCII characters is the last one. -/
theorem decode?_of_parts {front distances : List Char} (h : '-' ∉ distances) :
    decode? (front ++ (if front.isEmpty then [] else ['-']) ++ distances) =
      decodeFrom front ⟨128, 0, 72, 0⟩ distances
        ((front ++ (if front.isEmpty then [] else ['-']) ++ distances).length + 1) := by
  have hfree : ∀ c ∈ distances.reverse, (c != '-') = true := by
    intro c hc
    simp only [bne_iff_ne]
    rintro rfl
    exact h (List.mem_reverse.1 hc)
  have htake (rest : List Char) : (distances.reverse ++ '-' :: rest).takeWhile (· != '-') =
      distances.reverse := by
    rw [List.takeWhile_append_of_pos hfree]
    simp
  have hdrop (rest : List Char) : (distances.reverse ++ '-' :: rest).dropWhile (· != '-') =
      '-' :: rest := by
    rw [List.dropWhile_append_of_pos hfree]
    simp
  -- without characters in ASCII there is no hyphen to cut at
  cases front with
  | nil =>
      have hnone : distances.reverse.dropWhile (· != '-') = [] := by
        rw [← List.append_nil distances.reverse, List.dropWhile_append_of_pos hfree,
          List.dropWhile_nil]
      simp [decode?, hnone]
  | cons c front =>
      have hreverse : (c :: front ++ ['-'] ++ distances).reverse =
          distances.reverse ++ '-' :: (c :: front).reverse := by simp
      simp only [decode?, List.isEmpty_cons, Bool.false_eq_true, if_false, hreverse, htake, hdrop]
      simp

def State.start (label : List Char) : State :=
  ⟨128, 0, 72, (label.filter (·.toNat < 128)).length⟩

theorem inStep_start (label : List Char) :
    InStep (label.filter (·.toNat < 128)).length (label.filter (·.toNat < (State.start label).next))
      (State.start label).next 0 (.start label) ⟨128, 0, 72, 0⟩ :=
  ⟨rfl, Nat.le_refl _, Nat.zero_le _, rfl, show 72 < 216 by decide, rfl, Nat.zero_add _,
    fun _ => rfl⟩

theorem encode_eq (label : List Char) :
    encode label = label.filter (·.toNat < 128) ++
      (if (label.filter (·.toNat < 128)).isEmpty then [] else ['-']) ++
      encodeFrom (label.filter (·.toNat < 128)).length label (.start label) label.length :=
  rfl

/-- A label is decoded from what it was encoded to. -/
theorem decode?_encode {label : List Char} (h : label.length ≤ 1000) :
    decode? (encode label) = some label := by
  have hfree : '-' ∉ encodeFrom (label.filter (·.toNat < 128)).length label (.start label)
      label.length := fun hm => absurd (isDigitChar_of_mem_encodeFrom hm) (by decide)
  rw [encode_eq, decode?_of_parts hfree]
  refine decodeFrom_encodeFrom h (inStep_start label) (List.length_filter_le _ _) ?_
  simp only [List.length_append]
  omega

/-- An encoded label has the ASCII characters of the label, hyphens, and digits. -/
theorem mem_encode {label : List Char} {c : Char} (h : c ∈ encode label) :
    (c ∈ label ∧ c.toNat < 128) ∨ c = '-' ∨ IsDigitChar c := by
  rw [encode_eq] at h
  rcases List.mem_append.1 h with h | h
  · rcases List.mem_append.1 h with h | h
    · obtain ⟨hmem, hsmall⟩ := List.mem_filter.1 h
      exact .inl ⟨hmem, of_decide_eq_true hsmall⟩
    · split at h
      · cases h
      · exact .inr (.inl (List.mem_singleton.1 h))
  · exact .inr (.inr (isDigitChar_of_mem_encodeFrom h))

end Url.Punycode

end AuthGateway
