import AuthGateway.Proofs.Letters
import AuthGateway.Proofs.Text
import AuthGateway.Proofs.Utf8

/-!
The composed form of a text. Taking it apart again gives back the letters that it was
composed of, in the same order, so that a composed text stays as it is. A dot takes
part in nothing, so that what stands between dots is composed by itself.
-/
namespace AuthGateway

namespace Composition

/-! The order of marks. -/

def ordered (out xs : List Nat) : List Nat :=
  xs.foldl (fun out n => place n out) out

/-- A character stands behind others, which are in reverse, without changing places. -/
def IsPlaced (out : List Nat) (n : Nat) : Prop :=
  ∀ m ∈ out.head?, ¬ (0 < combiningClass n ∧ combiningClass n < combiningClass m)

/-- Characters, in reverse, of which each is in its place. -/
inductive IsOrdered : List Nat → Prop where
  | nil : IsOrdered []
  | cons {n : Nat} {out : List Nat} : IsPlaced out n → IsOrdered out → IsOrdered (n :: out)

variable {n m : Nat} {out xs ys : List Nat}

theorem IsOrdered.of_append (h : IsOrdered (xs ++ out)) : IsOrdered out := by
  induction xs with
  | nil => exact h
  | cons n xs ih =>
      cases h with
      | cons _ hrest => exact ih hrest

theorem place_of_isPlaced (h : IsPlaced out n) : place n out = n :: out := by
  cases out with
  | nil => rfl
  | cons m rest => rw [place, if_neg (h m rfl)]

theorem head_place (n : Nat) (out : List Nat) :
    (place n out).head? = some n ∨ (place n out).head? = out.head? := by
  cases out with
  | nil => exact .inl rfl
  | cons m rest =>
      rw [place]
      split
      · exact .inr rfl
      · exact .inl rfl

/-- Placing a character keeps the order. -/
theorem isOrdered_place (n : Nat) (h : IsOrdered out) : IsOrdered (place n out) := by
  induction h with
  | nil => exact .cons (by simp [IsPlaced]) .nil
  | @cons m rest hplaced hrest ih =>
      rw [place]
      split
      · next hlower =>
          refine .cons (fun k hk => ?_) ih
          rcases head_place n rest with hhead | hhead
          · obtain rfl := Option.some.inj (hhead.symm.trans hk)
            omega
          · exact hplaced k (hhead ▸ hk)
      · next hnot =>
          refine .cons (fun k hk => ?_) (.cons hplaced hrest)
          exact Option.some.inj hk ▸ hnot

theorem isOrdered_ordered (h : IsOrdered out) (xs : List Nat) : IsOrdered (ordered out xs) := by
  induction xs generalizing out with
  | nil => exact h
  | cons n xs ih => exact ih (isOrdered_place n h)

theorem ordered_append (out xs ys : List Nat) :
    ordered out (xs ++ ys) = ordered (ordered out xs) ys :=
  List.foldl_append

theorem ordered_concat (out xs : List Nat) (n : Nat) :
    ordered out (xs ++ [n]) = place n (ordered out xs) :=
  ordered_append out xs [n]

/-- Marks of different classes are placed in any order. -/
theorem place_comm (hm : 0 < combiningClass m) (h : combiningClass m < combiningClass n)
    (out : List Nat) : place m (place n out) = place n (place m out) := by
  induction out with
  | nil => grind [place]
  | cons k rest ih => grind [place]

theorem ordered_place (hxs : ∀ m ∈ xs, 0 < combiningClass m ∧ combiningClass m < combiningClass n)
    (out : List Nat) : ordered (place n out) xs = place n (ordered out xs) := by
  induction xs generalizing out with
  | nil => rfl
  | cons m xs ih =>
      obtain ⟨⟨hm, hlt⟩, hxs⟩ := List.forall_mem_cons.1 hxs
      calc
        _ = ordered (place n (place m out)) xs := by
          rw [← place_comm hm hlt]
          rfl
        _ = _ := ih hxs (place m out)

theorem place_subset {n : Nat} {out : List Nat} {k : Nat} (h : k ∈ place n out) :
    k = n ∨ k ∈ out := by
  induction out with
  | nil => exact .inl (List.mem_singleton.1 h)
  | cons m rest ih => grind [place]

theorem mem_of_mem_ordered {k : Nat} (h : k ∈ ordered out xs) : k ∈ out ∨ k ∈ xs := by
  induction xs generalizing out with
  | nil => exact .inl h
  | cons n xs ih =>
      rcases ih h with hk | hk
      · rcases place_subset hk with rfl | hk
        · exact .inr List.mem_cons_self
        · exact .inl hk
      · exact .inr (List.mem_cons_of_mem n hk)

def marksOf (out : List Nat) : List Nat :=
  out.takeWhile fun m => 0 < combiningClass m

theorem pos_of_mem_marksOf (h : m ∈ marksOf out) : 0 < combiningClass m := by
  simpa using List.all_eq_true.1 List.all_takeWhile m h

/-- Behind the last character of class zero, classes do not go down. -/
theorem pairwise_marksOf (h : IsOrdered out) :
    (marksOf out).Pairwise fun n m => combiningClass m ≤ combiningClass n := by
  induction h with
  | nil => exact List.Pairwise.nil
  | @cons n rest hplaced _ ih =>
      rw [marksOf, List.takeWhile_cons]
      split
      · next hn =>
          refine List.pairwise_cons.2 ⟨fun m hm => ?_, ih⟩
          cases rest with
          | nil => cases hm
          | cons k rest =>
              -- in order, a mark does not follow one of a higher class
              have hk : combiningClass k ≤ combiningClass n := by
                have := hplaced k rfl
                have : 0 < combiningClass n := by simpa using hn
                omega
              rw [marksOf, List.takeWhile_cons] at ih
              rw [List.takeWhile_cons] at hm
              split at hm
              · next hpos =>
                  rw [if_pos hpos] at ih
                  rcases List.mem_cons.1 hm with rfl | hm
                  · exact hk
                  · exact Nat.le_trans ((List.pairwise_cons.1 ih).1 m hm) hk
              · cases hm
      · exact List.Pairwise.nil

theorem marksOf_cons (h : 0 < combiningClass n) : marksOf (n :: out) = n :: marksOf out :=
  List.takeWhile_cons_of_pos (by simpa using h)

theorem sublist_marksOf_cons (h : xs.Sublist (marksOf out)) (hn : xs = [] ∨ 0 < combiningClass n) :
    xs.Sublist (marksOf (n :: out)) := by
  rcases hn with rfl | hn
  · exact List.nil_sublist _
  · rw [marksOf_cons hn]
    exact h.cons n

/-! Composing, and taking apart again. -/

namespace Progress

/-- Behind characters in order and in reverse, a progress whose text has these letters. -/
structure Undoes (p : Progress) (out : List Nat) : Prop where
  letters : ordered [] (p.all.flatMap letters) = out
  based : p.base = none → p.marks = []
  marks : p.marks.Sublist (marksOf out)

theorem all_of_based {p : Progress} {b : Nat} (h : p.base = some b) :
    p.all = p.done.reverse ++ b :: p.marks.reverse := by
  simp [all, h]

def reaches (p : Progress) (n : Nat) : Bool :=
  match p.marks with
  | [] => true
  | m :: _ => decide (combiningClass m < combiningClass n)

/-- What a progress with a base becomes. -/
theorem take_of_based {p : Progress} {b : Nat} (hbase : p.base = some b) (n : Nat) :
    p.take n =
      match if p.reaches n then composite? b n else none with
      | some c => { p with base := some c }
      | none =>
        if combiningClass n = 0 then ⟨p.marks ++ b :: p.done, some n, []⟩
        else ⟨p.done, some b, n :: p.marks⟩ := by
  rw [take, hbase]
  dsimp only
  rfl

/-- A character is composed with the base, or else it follows all others. -/
theorem take_cases (p : Progress) (n : Nat) :
    (∃ b c, p.base = some b ∧ p.reaches n = true ∧ composite? b n = some c ∧
      p.take n = { p with base := some c }) ∨
    (p.base = none ∧ p.take n =
      if combiningClass n = 0 then { p with base := some n } else { p with done := n :: p.done }) ∨
    (∃ b, p.base = some b ∧ p.take n =
      if combiningClass n = 0 then ⟨p.marks ++ b :: p.done, some n, []⟩
      else ⟨p.done, some b, n :: p.marks⟩) := by
  cases hbase : p.base with
  | none =>
      refine .inr (.inl ⟨rfl, ?_⟩)
      rw [take, hbase]
  | some b =>
      have htake := take_of_based hbase n
      split at htake
      · next c hc =>
          obtain ⟨hreaches, hc⟩ := Option.ite_none_right_eq_some.1 hc
          exact .inl ⟨b, c, rfl, hreaches, hc, htake⟩
      · exact .inr (.inr ⟨b, rfl, htake⟩)

/-- The marks that a character passes on its way to the base are of lower classes. -/
theorem lower_of_reaches {p : Progress} {out : List Nat} (hmarks : p.marks.Sublist (marksOf out))
    (hout : IsOrdered out) {n : Nat} (h : p.reaches n = true) :
    ∀ m ∈ p.marks, 0 < combiningClass m ∧ combiningClass m < combiningClass n := by
  have hpairwise := (pairwise_marksOf hout).sublist hmarks
  intro m hm
  refine ⟨pos_of_mem_marksOf (hmarks.subset hm), ?_⟩
  rw [reaches] at h
  split at h
  · next hnil =>
      rw [hnil] at hm
      cases hm
  · next first rest hcons =>
      rw [hcons] at hm hpairwise
      have hfirst : combiningClass first < combiningClass n := of_decide_eq_true h
      rcases List.mem_cons.1 hm with rfl | hm
      · exact hfirst
      · exact Nat.lt_of_le_of_lt ((List.pairwise_cons.1 hpairwise).1 m hm) hfirst

/-- Taking in one more letter in order can be undone. -/
theorem undoes_take {p : Progress} {out : List Nat} {n : Nat} (h : p.Undoes out)
    (hout : IsOrdered (n :: out)) (hletters : ∀ m ∈ n :: out, IsLetter m) :
    (p.take n).Undoes (n :: out) := by
  obtain ⟨hplaced, hout⟩ : IsPlaced out n ∧ IsOrdered out := by
    cases hout with
    | cons hplaced hout => exact ⟨hplaced, hout⟩
  obtain ⟨hn, hletters⟩ := List.forall_mem_cons.1 hletters
  -- Where nothing is composed, the new character stands behind all letters so far.
  have hfollows (hall : (p.take n).all = p.all ++ [n]) :
      ordered [] ((p.take n).all.flatMap letters) = n :: out := by
    rw [hall, List.flatMap_append, List.flatMap_singleton, hn.letters, ordered_concat, h.letters,
      place_of_isPlaced hplaced]
  rcases p.take_cases n with ⟨b, c, hbase, hreaches, hc, htake⟩ | ⟨hbase, htake⟩ | ⟨b, hbase, htake⟩
  · have hlower := lower_of_reaches h.marks hout hreaches
    have hmarks : p.marks.reverse.flatMap letters = p.marks.reverse :=
      flatMap_letters fun m hm =>
        hletters m ((List.takeWhile_prefix _).subset (h.marks.subset (List.mem_reverse.1 hm)))
    have hbefore := h.letters
    rw [all_of_based hbase, List.flatMap_append, List.flatMap_cons, hmarks, ordered_append,
      ordered_append] at hbefore
    rw [htake]
    refine ⟨?_, nofun, sublist_marksOf_cons h.marks ?_⟩
    · rw [all_of_based rfl, List.flatMap_append, List.flatMap_cons, hmarks,
        letters_of_composite? hc, ordered_append, ordered_append, ordered_concat,
        ordered_place fun m hm => hlower m (List.mem_reverse.1 hm), hbefore,
        place_of_isPlaced hplaced]
    · cases hm : p.marks with
      | nil => exact .inl rfl
      | cons m rest =>
          have := (hlower m (by rw [hm]; exact List.mem_cons_self)).2
          exact .inr (by omega)
  · have hmarks := h.based hbase
    have hall : (p.take n).all = p.all ++ [n] := by
      rw [htake]
      split <;> simp [all, hbase, hmarks]
    have hnone : (p.take n).marks = [] := by
      rw [htake]
      split <;> exact hmarks
    exact ⟨hfollows hall, fun _ => hnone, hnone ▸ List.nil_sublist _⟩
  · have hall : (p.take n).all = p.all ++ [n] := by
      rw [htake]
      split <;> simp [all, hbase]
    refine ⟨hfollows hall, ?_, ?_⟩
    · rw [htake]
      split <;> simp
    · rw [htake]
      split
      · exact List.nil_sublist _
      · next hpos =>
          rw [marksOf_cons (Nat.pos_of_ne_zero hpos)]
          exact h.marks.cons_cons n

/-- Composing letters in order can be undone. -/
theorem undoes_foldl {xs : List Nat} {p : Progress} {out : List Nat} (h : p.Undoes out)
    (hout : IsOrdered (xs.reverse ++ out)) (hletters : ∀ m ∈ xs.reverse ++ out, IsLetter m) :
    (xs.foldl take p).Undoes (xs.reverse ++ out) := by
  induction xs generalizing p out with
  | nil => exact h
  | cons n xs ih =>
      rw [List.reverse_cons, List.append_assoc, List.singleton_append] at hout hletters ⊢
      exact ih (undoes_take h hout.of_append fun m hm => hletters m (List.mem_append_right _ hm))
        hout hletters

theorem forall_take {P : Nat → Prop} (hP : IsClosed P) {p : Progress} (hall : ∀ k ∈ p.all, P k)
    {n : Nat} (hn : P n) : ∀ k ∈ (p.take n).all, P k := by
  rcases p.take_cases n with ⟨b, c, hbase, -, hc, htake⟩ | ⟨hbase, htake⟩ | ⟨b, hbase, htake⟩
  · intro k hk
    rw [all_of_based hbase] at hall
    rw [htake, all_of_based rfl] at hk
    simp only [List.mem_append, List.mem_cons] at hall hk
    rcases hk with hdone | rfl | hmarks
    · exact hall k (.inl hdone)
    · exact hP.composite hc (hall b (.inr (.inl rfl))) hn
    · exact hall k (.inr (.inr hmarks))
  · intro k hk
    rw [htake] at hk
    split at hk <;> simp [all, hbase] at hk hall <;> grind
  · intro k hk
    rw [htake] at hk
    split at hk <;> simp [all, hbase] at hk hall <;> grind

end Progress

/-! The composed form. -/

def apart (cs : List Char) : List Nat :=
  (ordered [] (cs.flatMap fun c => letters c.toNat)).reverse

def recompose (xs : List Nat) : List Nat :=
  (xs.foldl Progress.take ⟨[], none, []⟩).all

theorem forall_recompose {P : Nat → Prop} (hP : IsClosed P) {xs : List Nat} (h : ∀ n ∈ xs, P n) :
    ∀ k ∈ recompose xs, P k := by
  have hstep (p : Progress) (hall : ∀ k ∈ p.all, P k) : ∀ k ∈ (xs.foldl Progress.take p).all, P k := by
    induction xs generalizing p with
    | nil => exact hall
    | cons n xs ih =>
        obtain ⟨hn, hxs⟩ := List.forall_mem_cons.1 h
        exact ih hxs _ (Progress.forall_take hP hall hn)
  exact hstep _ (by simp [Progress.all])

theorem forall_apart {P : Nat → Prop} (hP : IsClosed P) {cs : List Char}
    (h : ∀ c ∈ cs, P c.toNat) : ∀ k ∈ apart cs, P k := by
  intro k hk
  rcases mem_of_mem_ordered (List.mem_reverse.1 hk) with hnil | hk
  · cases hnil
  · obtain ⟨c, hc, hk⟩ := List.mem_flatMap.1 hk
    exact hP.letters (h c hc) k hk

theorem isLetter_of_mem_apart {cs : List Char} {k : Nat} (h : k ∈ apart cs) : IsLetter k := by
  rcases mem_of_mem_ordered (List.mem_reverse.1 h) with hnil | hk
  · cases hnil
  · obtain ⟨c, -, hk⟩ := List.mem_flatMap.1 hk
    exact isLetter_of_mem_letters hk

/-- Taking apart what letters in order were composed to gives back these letters. -/
theorem ordered_recompose {xs : List Nat} (hxs : IsOrdered xs.reverse)
    (hletters : ∀ n ∈ xs, IsLetter n) :
    ordered [] ((recompose xs).flatMap letters) = xs.reverse := by
  have hempty : (⟨[], none, []⟩ : Progress).Undoes [] := ⟨rfl, fun _ => rfl, List.nil_sublist _⟩
  have hundoes := Progress.undoes_foldl hempty (show IsOrdered (xs.reverse ++ []) by rwa [List.append_nil])
    (by rw [List.append_nil]; exact fun m hm => hletters m (List.mem_reverse.1 hm))
  rw [List.append_nil] at hundoes
  exact hundoes.letters

/-! Characters that are never composed with others. -/

theorem combiningClass_of_avoids {low high : Nat}
    (h : combiningClasses.avoids low high = true) (hn : low ≤ n ∧ n ≤ high) :
    combiningClass n = 0 := by
  rw [combiningClass, CodeTable.find?_eq_none_of_avoids h hn]

theorem combiningClass_of_ascii (h : n < 128) : combiningClass n = 0 := by
  have havoids : combiningClasses.avoids 0 127 = true := by decide +kernel
  exact combiningClass_of_avoids havoids (by omega)

theorem isPlaced_of_class_zero (h : combiningClass n = 0) (out : List Nat) : IsPlaced out n :=
  fun _ _ hlower => by omega

/-- Nothing changes places with a character of class zero. -/
theorem place_append_of_class_zero (hm : combiningClass m = 0) (n : Nat) (out xs : List Nat) :
    place n (out ++ m :: xs) = place n out ++ m :: xs := by
  induction out with
  | nil => exact place_of_isPlaced fun k hk => by simp [← Option.some.inj hk, hm]
  | cons k out ih =>
      rw [List.cons_append, place, place, ih]
      split <;> rfl

theorem ordered_append_of_class_zero (hm : combiningClass m = 0) (out xs ys : List Nat) :
    ordered (out ++ m :: xs) ys = ordered out ys ++ m :: xs := by
  induction ys generalizing out with
  | nil => rfl
  | cons n ys ih =>
      have hplace := place_append_of_class_zero hm n out xs
      calc
        _ = ordered (place n out ++ m :: xs) ys := by
          rw [← hplace]
          rfl
        _ = _ := ih (place n out)

namespace Progress

theorem take_of_starter {p : Progress} (hp : p.base = none → p.marks = [])
    (hzero : combiningClass n = 0) (hno : ∀ a, composite? a n = none) :
    p.take n = ⟨p.all.reverse, some n, []⟩ := by
  rcases p.take_cases n with ⟨b, c, -, -, hc, -⟩ | ⟨hbase, htake⟩ | ⟨b, hbase, htake⟩
  · rw [hno] at hc
    cases hc
  · rw [htake, if_pos hzero]
    simp [all, hbase, hp hbase]
  · rw [htake, if_pos hzero]
    simp [all, hbase]

/-- One progress is another behind a dot and what is in front of that. -/
inductive Behind (front : List Nat) : Progress → Progress → Prop where
  | marked (marks : List Nat) : Behind front ⟨front, some 0x2E, marks⟩ ⟨marks, none, []⟩
  | based (done : List Nat) (b : Nat) (marks : List Nat) :
    Behind front ⟨done ++ 0x2E :: front, some b, marks⟩ ⟨done, some b, marks⟩

theorem Behind.all {front : List Nat} {p q : Progress} (h : Behind front p q) :
    p.all = front.reverse ++ 0x2E :: q.all := by
  cases h with
  | marked marks => simp [Progress.all]
  | based done b marks => simp [Progress.all]

/-- What is in front of a dot takes no part in what comes behind it. -/
theorem Behind.take {front : List Nat} {p q : Progress} (h : Behind front p q) (n : Nat) :
    Behind front (p.take n) (q.take n) := by
  cases h with
  | marked marks =>
      have hdot : (if reaches ⟨front, some 0x2E, marks⟩ n then composite? 0x2E n else none) = none := by
        rw [composite?_dot]
        exact ite_self none
      rw [take_of_based rfl, hdot, Progress.take]
      dsimp only
      split
      · exact .based marks n []
      · exact .marked (n :: marks)
  | based done b marks =>
      rw [take_of_based rfl, take_of_based rfl]
      -- base and marks alone decide whether a character reaches the base
      have hreaches : reaches ⟨done ++ 0x2E :: front, some b, marks⟩ n =
          reaches ⟨done, some b, marks⟩ n := rfl
      rw [hreaches]
      split
      · next c _ => exact .based done c marks
      · split
        · have hdone : marks ++ b :: (done ++ 0x2E :: front) =
              (marks ++ b :: done) ++ 0x2E :: front := by simp
          rw [hdone]
          exact .based (marks ++ b :: done) n []
        · exact .based done b (n :: marks)

theorem Behind.foldl {front : List Nat} {p q : Progress} (h : Behind front p q) (xs : List Nat) :
    Behind front (xs.foldl Progress.take p) (xs.foldl Progress.take q) := by
  induction xs generalizing p q with
  | nil => exact h
  | cons n xs ih => exact ih (h.take n)

theorem based_foldl {p : Progress} (hp : p.base = none → p.marks = []) (xs : List Nat) :
    (xs.foldl take p).base = none → (xs.foldl take p).marks = [] := by
  induction xs generalizing p with
  | nil => exact hp
  | cons n xs ih =>
      refine ih ?_
      rcases p.take_cases n with ⟨b, c, -, -, -, htake⟩ | ⟨hbase, htake⟩ | ⟨b, -, htake⟩
      · rw [htake]
        exact nofun
      · rw [htake]
        split <;> exact fun _ => hp hbase
      · rw [htake]
        split <;> exact nofun

end Progress

theorem combiningClass_dot : combiningClass 0x2E = 0 :=
  combiningClass_of_ascii (by decide)

theorem recompose_dot (xs ys : List Nat) :
    recompose (xs ++ 0x2E :: ys) = recompose xs ++ 0x2E :: recompose ys := by
  have hbased : (xs.foldl Progress.take ⟨[], none, []⟩).base = none →
      (xs.foldl Progress.take ⟨[], none, []⟩).marks = [] :=
    Progress.based_foldl (fun _ => rfl) xs
  rw [recompose, List.foldl_append, List.foldl_cons, Progress.take_of_starter hbased
    combiningClass_dot (composite?_of_ascii (by decide)),
    ((Progress.Behind.marked []).foldl ys).all, List.reverse_reverse]
  rfl

theorem apart_dot (cs ds : List Char) : apart (cs ++ '.' :: ds) = apart cs ++ 0x2E :: apart ds := by
  have hletters : letters ('.' : Char).toNat = [0x2E] := (isLetter_of_ascii (by decide)).letters
  have hplace (out : List Nat) : place 0x2E out = 0x2E :: out :=
    place_of_isPlaced (isPlaced_of_class_zero combiningClass_dot out)
  have hbarrier := ordered_append_of_class_zero combiningClass_dot []
    (ordered [] (cs.flatMap fun c => letters c.toNat)) (ds.flatMap fun c => letters c.toNat)
  rw [apart, List.flatMap_append, List.flatMap_cons, hletters, ordered_append, ordered_append,
    show ordered _ [0x2E] = _ from hplace _, ← List.nil_append (0x2E :: _), hbarrier]
  simp [apart]

/-! Composing texts. -/

theorem ordered_of_class_zero (h : ∀ n ∈ xs, combiningClass n = 0) (out : List Nat) :
    ordered out xs = xs.reverse ++ out := by
  induction xs generalizing out with
  | nil => rfl
  | cons n xs ih =>
      obtain ⟨hn, hxs⟩ := List.forall_mem_cons.1 h
      calc
        _ = ordered (n :: out) xs := by
          rw [← place_of_isPlaced (isPlaced_of_class_zero hn out)]
          rfl
        _ = _ := by
          rw [ih hxs, List.reverse_cons, List.append_assoc]
          rfl

/-- A character that is not composed of others, and with nothing in front of it. -/
structure IsLone (n : Nat) : Prop where
  letter : IsLetter n
  classZero : combiningClass n = 0
  alone : ∀ a, composite? a n = none

theorem isLone_of_ascii (h : n < 128) : IsLone n :=
  ⟨isLetter_of_ascii h, combiningClass_of_ascii h, composite?_of_ascii h⟩

theorem apart_of_lone {cs : List Char} (h : ∀ c ∈ cs, IsLone c.toNat) :
    apart cs = cs.map Char.toNat := by
  have hlone : ∀ n ∈ cs.map Char.toNat, IsLone n := by simpa using h
  rw [apart, ← List.flatMap_map, flatMap_letters fun n hn => (hlone n hn).letter,
    ordered_of_class_zero fun n hn => (hlone n hn).classZero, List.append_nil, List.reverse_reverse]

theorem recompose_of_lone {xs : List Nat} (h : ∀ n ∈ xs, IsLone n) : recompose xs = xs := by
  have hstep (p : Progress) (hp : p.base = none → p.marks = []) :
      (xs.foldl Progress.take p).all = p.all ++ xs := by
    induction xs generalizing p with
    | nil => simp
    | cons n xs ih =>
        obtain ⟨hn, hxs⟩ := List.forall_mem_cons.1 h
        rw [List.foldl_cons, Progress.take_of_starter hp hn.classZero hn.alone,
          ih hxs _ fun _ => rfl]
        simp [Progress.all]
  exact hstep _ fun _ => rfl

theorem map_recompose_of_lone {cs : List Char} (h : ∀ c ∈ cs, IsLone c.toNat) :
    (recompose (apart cs)).map Char.ofNat = cs := by
  rw [apart_of_lone h, recompose_of_lone (by simpa using h), List.map_map]
  exact (List.map_congr_left fun c _ => Char.ofNat_toNat c).trans (List.map_id cs)

theorem compose_eq (cs : List Char) : compose cs = (recompose (apart cs)).map Char.ofNat := by
  rw [compose]
  split
  · next hascii =>
      have hsmall : ∀ c ∈ cs, c.toNat < 128 := by simpa using hascii
      exact (map_recompose_of_lone fun c hc => isLone_of_ascii (hsmall c hc)).symm
  · rfl

theorem compose_of_lone {cs : List Char} (h : ∀ c ∈ cs, IsLone c.toNat) : compose cs = cs := by
  rw [compose_eq, map_recompose_of_lone h]

theorem isValidChar_of_mem_recompose {cs : List Char} {n : Nat} (h : n ∈ recompose (apart cs)) :
    n.isValidChar :=
  forall_recompose isClosed_isValidChar
    (forall_apart isClosed_isValidChar fun c _ => c.valid) n h

theorem toNat_compose (cs : List Char) : (compose cs).map Char.toNat = recompose (apart cs) := by
  rw [compose_eq, List.map_map]
  exact (List.map_congr_left fun n hn =>
    Utf8.toNat_ofNat_of_valid (isValidChar_of_mem_recompose hn)).trans (List.map_id _)

/-- A property of characters stays when a text is composed. -/
theorem forall_compose {P : Nat → Prop} (hP : IsClosed P) {cs : List Char}
    (h : ∀ c ∈ cs, P c.toNat) : ∀ c ∈ compose cs, P c.toNat := by
  intro c hc
  exact forall_recompose hP (forall_apart hP h) c.toNat
    (toNat_compose cs ▸ List.mem_map_of_mem hc)

/-- Taking a composed text apart gives the letters of the text. -/
theorem apart_compose (cs : List Char) : apart (compose cs) = apart cs := by
  have hordered : IsOrdered (apart cs).reverse := by
    rw [apart, List.reverse_reverse]
    exact isOrdered_ordered .nil _
  rw [apart, ← List.flatMap_map, toNat_compose,
    ordered_recompose hordered fun _ hn => isLetter_of_mem_apart hn, List.reverse_reverse]

/-- A composed text stays as it is. -/
theorem compose_compose (cs : List Char) : compose (compose cs) = compose cs := by
  rw [compose_eq, apart_compose, ← compose_eq]

theorem compose_dot (cs ds : List Char) :
    compose (cs ++ '.' :: ds) = compose cs ++ '.' :: compose ds := by
  rw [compose_eq, compose_eq cs, compose_eq ds, apart_dot, recompose_dot, List.map_append,
    List.map_cons]

theorem dot_not_mem_compose {cs : List Char} (h : '.' ∉ cs) : '.' ∉ compose cs := by
  intro hdot
  refine forall_compose isClosed_ne_dot (fun c hc heq => h ?_) '.' hdot rfl
  rw [← Char.toNat_inj.1 (show c.toNat = ('.' : Char).toNat from heq)]
  exact hc

theorem compose_join {ps : List (List Char)} :
    compose (Split.join ['.'] ps) = Split.join ['.'] (ps.map compose) := by
  induction ps with
  | nil => rfl
  | cons p ps ih =>
      cases ps with
      | nil => rfl
      | cons q rest =>
          have hjoin (q : List Char) (rest : List (List Char)) :
              Split.join ['.'] (p :: q :: rest) = p ++ '.' :: Split.join ['.'] (q :: rest) := by
            simp [Split.join]
          rw [hjoin, compose_dot, ih]
          simp [Split.join]

/-- What stands between dots is composed by itself. -/
theorem pieces_compose (cs : List Char) :
    Split.pieces '.' (compose cs) = (Split.pieces '.' cs).map compose := by
  have hfree : ∀ p ∈ (Split.pieces '.' cs).map compose, '.' ∉ p := by
    intro p hp
    obtain ⟨q, hq, rfl⟩ := List.mem_map.1 hp
    exact dot_not_mem_compose fun hdot => (Split.mem_of_mem_pieces hq hdot).2 rfl
  calc
    _ = Split.pieces '.' (Split.join ['.'] ((Split.pieces '.' cs).map compose)) := by
      rw [← compose_join, Split.join_pieces]
    _ = _ := Split.pieces_join (by simpa using Split.pieces_ne_nil '.' cs) hfree

end Composition

end AuthGateway
