import AuthGateway.Decimal.Digits
import AuthGateway.Proofs.Utf8
import AuthGateway.Text.Ascii
import AuthGateway.Text.Blank
import AuthGateway.Text.Percent
import AuthGateway.Text.Split

/-!
Laws of the text layer: the lower case of characters, trimming, cutting at a
separator and joining, which undo each other, what a character more or less does
to the pieces, decimal digits, and text without percent signs, which stands for
itself.
-/
namespace AuthGateway

/-! Lists of parts that are read one by one. -/

section Parts

variable {α β : Type} {f : α → Option β} {xs : List α} {ys : List β}

theorem mapM_eq_some_iff : xs.mapM f = some ys ↔ xs.map f = ys.map some := by
  induction xs generalizing ys with
  | nil => cases ys <;> simp
  | cons x xs ih =>
      rw [List.mapM_cons, Option.bind_eq_bind, Option.bind_eq_some_iff]
      cases ys <;> simp [Option.bind_eq_some_iff, ← ih]

theorem exists_of_mem_parts (h : xs.mapM f = some ys) : ∀ y ∈ ys, ∃ x ∈ xs, f x = some y := by
  intro y hy
  have hmem : some y ∈ ys.map some := List.mem_map_of_mem hy
  rw [← mapM_eq_some_iff.1 h] at hmem
  exact List.mem_map.1 hmem

end Parts

namespace Ascii

theorem toNat_lowerChar (c : Char) :
    (lowerChar c).toNat = if 65 ≤ c.toNat ∧ c.toNat ≤ 90 then c.toNat + 32 else c.toNat := by
  have hupper : isUpper c = true ↔ 65 ≤ c.toNat ∧ c.toNat ≤ 90 := by
    simp [isUpper, Char.le_def, UInt32.le_iff_toNat_le]
  unfold lowerChar
  split
  · next h =>
      have hrange := hupper.1 h
      rw [Utf8.toNat_ofNat_of_byte (by omega), if_pos hrange]
  · next h => rw [if_neg fun hrange => h (hupper.2 hrange)]

@[simp]
theorem lowerChar_lowerChar (c : Char) : lowerChar (lowerChar c) = lowerChar c := by
  rw [← Char.toNat_inj, toNat_lowerChar, toNat_lowerChar]
  split
  · rw [if_neg (by omega)]
  · rfl

@[simp]
theorem lower_lower (s : String) : lower (lower s) = lower s := by
  simp [lower, Function.comp_def]

theorem isLetter_iff (c : Char) :
    isLetter c = true ↔ (97 ≤ c.toNat ∧ c.toNat ≤ 122) ∨ (65 ≤ c.toNat ∧ c.toNat ≤ 90) := by
  simp [isLetter, isLower, isUpper, Char.le_def, UInt32.le_iff_toNat_le]

theorem isDigit_iff (c : Char) : isDigit c = true ↔ 48 ≤ c.toNat ∧ c.toNat ≤ 57 := by
  simp [isDigit, Char.le_def, UInt32.le_iff_toNat_le]

/-- Only a letter has another character for its lower case. -/
theorem lowerChar_eq_iff {c d : Char} (hd : isLetter d = false) : lowerChar c = d ↔ c = d := by
  rw [← Bool.not_eq_true, isLetter_iff] at hd
  rw [← Char.toNat_inj, ← Char.toNat_inj, toNat_lowerChar]
  split <;> omega

theorem toNat_lowerChar_lt_iff (c : Char) : (lowerChar c).toNat < 128 ↔ c.toNat < 128 := by
  rw [toNat_lowerChar]
  split <;> omega

theorem lowerChar_of_not_ascii {c : Char} (h : ¬ c.toNat < 128) : lowerChar c = c := by
  rw [← Char.toNat_inj, toNat_lowerChar, if_neg (by omega)]

theorem lowerChar_eq_e_iff {c : Char} : lowerChar c = 'e' ↔ c = 'e' ∨ c = 'E' := by
  have he : 'e'.toNat = 101 := rfl
  have hE : 'E'.toNat = 69 := rfl
  rw [← Char.toNat_inj, ← Char.toNat_inj, ← Char.toNat_inj, toNat_lowerChar]
  split <;> omega

end Ascii

namespace Blank

variable {α : Type} {p : α → Bool}

theorem dropWhile_of_head {xs : List α} (h : ∀ x ∈ xs.head?, p x = false) :
    xs.dropWhile p = xs := by
  cases xs with
  | nil => rfl
  | cons x xs => exact List.dropWhile_cons_of_neg (by simp [h x rfl])

theorem head_dropWhile (p : α → Bool) (xs : List α) : ∀ x ∈ (xs.dropWhile p).head?, p x = false := by
  intro x hx
  have h := List.head?_dropWhile_not p xs
  rwa [Option.mem_def.1 hx] at h

theorem trimBy_eq_self {xs : List α} (hhead : ∀ x ∈ xs.head?, p x = false)
    (hlast : ∀ x ∈ xs.getLast?, p x = false) : trimBy p xs = xs := by
  rw [trimBy, dropWhile_of_head hhead, dropWhile_of_head, List.reverse_reverse]
  rwa [List.head?_reverse]

theorem trimBy_of_forall {xs : List α} (h : ∀ x ∈ xs, p x = false) : trimBy p xs = xs :=
  trimBy_eq_self (fun x hx => h x (List.mem_of_mem_head? hx))
    fun x hx => h x (List.mem_of_getLast? hx)

theorem last_trimBy (xs : List α) : ∀ x ∈ (trimBy p xs).getLast?, p x = false := by
  rw [trimBy, List.getLast?_reverse]
  exact head_dropWhile p _

theorem trimBy_isPrefix (xs : List α) : trimBy p xs <+: xs.dropWhile p := by
  rw [trimBy, ← List.reverse_suffix, List.reverse_reverse]
  exact List.dropWhile_suffix p

theorem head_trimBy (xs : List α) : ∀ x ∈ (trimBy p xs).head?, p x = false := by
  intro x hx
  obtain ⟨rest, hrest⟩ := List.head?_eq_some_iff.1 hx
  apply head_dropWhile p xs
  obtain ⟨behind, hbehind⟩ := trimBy_isPrefix (p := p) xs
  rw [← hbehind, hrest]
  rfl

theorem trimBy_trimBy (xs : List α) : trimBy p (trimBy p xs) = trimBy p xs :=
  trimBy_eq_self (head_trimBy xs) (last_trimBy xs)

theorem trimBy_cons {x : α} (h : p x = true) (xs : List α) : trimBy p (x :: xs) = trimBy p xs := by
  rw [trimBy, List.dropWhile_cons_of_pos h, trimBy]

theorem mem_of_mem_trimBy {xs : List α} {x : α} (h : x ∈ trimBy p xs) : x ∈ xs :=
  (List.dropWhile_suffix p).subset ((trimBy_isPrefix xs).subset h)

/-- Trimming takes nothing from a text that starts and ends with what stays. -/
theorem exists_trimBy_append {xs : List α} (hne : xs ≠ []) (hhead : ∀ x ∈ xs.head?, p x = false)
    (hlast : ∀ x ∈ xs.getLast?, p x = false) (ys : List α) :
    ∃ zs, zs <+: ys ∧ trimBy p (xs ++ ys) = xs ++ zs := by
  have hstart : (xs ++ ys).dropWhile p = xs ++ ys := by
    obtain ⟨x, rest, rfl⟩ := List.exists_cons_of_ne_nil hne
    exact dropWhile_of_head hhead
  have hend : (ys.reverse ++ xs.reverse).dropWhile p = ys.reverse.dropWhile p ++ xs.reverse := by
    have hkept : xs.reverse.dropWhile p = xs.reverse :=
      dropWhile_of_head (by rwa [List.head?_reverse])
    rw [List.dropWhile_append, hkept]
    split
    · next hnil => rw [List.isEmpty_iff.1 hnil, List.nil_append]
    · rfl
  refine ⟨(ys.reverse.dropWhile p).reverse, ?_, ?_⟩
  · rw [← List.reverse_suffix, List.reverse_reverse]
    exact List.dropWhile_suffix p
  · rw [trimBy, hstart, List.reverse_append, hend, List.reverse_append, List.reverse_reverse]

end Blank

namespace Split

variable {α : Type} [BEq α] [LawfulBEq α]

omit [LawfulBEq α] in
theorem pieces_ne_nil (sep : α) (xs : List α) : pieces sep xs ≠ [] := by
  cases xs with
  | nil => simp [pieces]
  | cons x xs =>
      simp only [pieces, List.foldr_cons]
      split
      · simp
      · split <;> simp

theorem pieces_cons_sep (sep : α) (xs : List α) :
    pieces sep (sep :: xs) = [] :: pieces sep xs := by
  simp [pieces]

/-- A separator-free text in front is the front of the first piece. -/
theorem pieces_append {sep : α} {xs : List α} (h : sep ∉ xs) (ys : List α) :
    pieces sep (xs ++ ys) =
      (xs ++ (pieces sep ys).headD []) :: (pieces sep ys).tail := by
  induction xs with
  | nil =>
      cases hy : pieces sep ys with
      | nil => exact absurd hy (pieces_ne_nil sep ys)
      | cons p ps => simp [hy]
  | cons x xs ih =>
      have hx : (x == sep) = false := by
        simpa using fun e : x = sep => h (e ▸ List.mem_cons_self)
      have ih := ih fun hm => h (List.mem_cons_of_mem _ hm)
      simp only [List.cons_append, pieces, List.foldr_cons, hx]
      simp only [pieces] at ih
      simp [ih]

theorem pieces_cons_of_ne {sep x : α} (h : x ≠ sep) (xs : List α) :
    pieces sep (x :: xs) = (x :: (pieces sep xs).headD []) :: (pieces sep xs).tail := by
  have hx : sep ∉ [x] := by simpa using Ne.symm h
  exact pieces_append hx xs

theorem pieces_of_not_mem {sep : α} {xs : List α} (h : sep ∉ xs) : pieces sep xs = [xs] := by
  have := pieces_append h []
  simpa [pieces] using this

theorem pieces_append_sep {sep : α} {xs : List α} (h : sep ∉ xs) (ys : List α) :
    pieces sep (xs ++ sep :: ys) = xs :: pieces sep ys := by
  rw [pieces_append h, pieces_cons_sep]
  simp

/-- Pieces without separators are found again in their join. -/
theorem pieces_join {sep : α} {ps : List (List α)} (hne : ps ≠ []) (h : ∀ p ∈ ps, sep ∉ p) :
    pieces sep (join [sep] ps) = ps := by
  induction ps with
  | nil => exact absurd rfl hne
  | cons p ps ih =>
      cases ps with
      | nil => exact pieces_of_not_mem (h p List.mem_cons_self)
      | cons q rest =>
          have hq : join [sep] (p :: q :: rest) = p ++ sep :: join [sep] (q :: rest) := by
            simp [join]
          rw [hq, pieces_append_sep (h p List.mem_cons_self),
            ih (List.cons_ne_nil _ _) fun r hr => h r (List.mem_cons_of_mem _ hr)]

/-- A piece has characters of the text, and no separator. -/
theorem mem_of_mem_pieces {sep : α} {xs p : List α} (hp : p ∈ pieces sep xs) {x : α}
    (hx : x ∈ p) : x ∈ xs ∧ x ≠ sep := by
  induction xs generalizing p with
  | nil =>
      simp only [pieces, List.foldr_nil, List.mem_singleton] at hp
      exact absurd hx (by simp [hp])
  | cons y ys ih =>
      by_cases hy : y = sep
      · subst hy
        rw [pieces_cons_sep] at hp
        cases List.mem_cons.1 hp with
        | inl he => exact absurd hx (by simp [he])
        | inr hr => exact ⟨List.mem_cons_of_mem _ (ih hr hx).1, (ih hr hx).2⟩
      · rw [pieces_cons_of_ne hy] at hp
        -- a character that is no separator joins the first piece behind it
        cases hs : pieces sep ys with
        | nil => exact absurd hs (pieces_ne_nil sep ys)
        | cons q qs =>
            rw [hs] at hp
            simp only [List.headD_cons, List.tail_cons] at hp
            cases List.mem_cons.1 hp with
            | inl he =>
                subst he
                cases List.mem_cons.1 hx with
                | inl hxy => exact ⟨hxy ▸ List.mem_cons_self, hxy ▸ hy⟩
                | inr hxq =>
                    have := ih (hs ▸ List.mem_cons_self) hxq
                    exact ⟨List.mem_cons_of_mem _ this.1, this.2⟩
            | inr hr =>
                have := ih (hs ▸ List.mem_cons_of_mem _ hr) hx
                exact ⟨List.mem_cons_of_mem _ this.1, this.2⟩

theorem before_append_sep {sep : α} {xs : List α} (h : sep ∉ xs) (ys : List α) :
    before sep (xs ++ sep :: ys) = xs := by
  have hall : ∀ x ∈ xs, (!(x == sep)) = true := fun x hx => by
    simpa using fun e : x = sep => h (e ▸ hx)
  rw [before, List.takeWhile_append_of_pos hall]
  simp

theorem after?_append_sep {sep : α} {xs : List α} (h : sep ∉ xs) (ys : List α) :
    after? sep (xs ++ sep :: ys) = some ys := by
  have hall : ∀ x ∈ xs, (!(x == sep)) = true := fun x hx => by
    simpa using fun e : x = sep => h (e ▸ hx)
  rw [after?, List.dropWhile_append_of_pos hall]
  simp

theorem before_of_not_mem {sep : α} {xs : List α} (h : sep ∉ xs) : before sep xs = xs := by
  have hall : ∀ x ∈ xs, (!(x == sep)) = true := fun x hx => by
    simpa using fun e : x = sep => h (e ▸ hx)
  rw [before, ← List.append_nil xs, List.takeWhile_append_of_pos hall, List.takeWhile_nil]

theorem after?_of_not_mem {sep : α} {xs : List α} (h : sep ∉ xs) : after? sep xs = none := by
  have hall : ∀ x ∈ xs, (!(x == sep)) = true := fun x hx => by
    simpa using fun e : x = sep => h (e ▸ hx)
  have hnil : xs.dropWhile (fun x => !(x == sep)) = [] := by
    rw [← List.append_nil xs, List.dropWhile_append_of_pos hall, List.dropWhile_nil]
  rw [after?, hnil]

theorem once?_of_not_mem {sep : α} {xs : List α} (h : sep ∉ xs) : once? sep xs = none := by
  rw [once?, after?_of_not_mem h, Option.map_none]

theorem once?_append_sep {sep : α} {xs : List α} (h : sep ∉ xs) (ys : List α) :
    once? sep (xs ++ sep :: ys) = some (xs, ys) := by
  rw [once?, after?_append_sep h, before_append_sep h, Option.map_some]

theorem forall_pieces_append {P : List α → Prop} {sep : α} {xs ys : List α} (hxs : sep ∉ xs)
    (hfront : ∀ p, P p → P (xs ++ p)) (hys : ∀ p ∈ pieces sep ys, P p) :
    ∀ p ∈ pieces sep (xs ++ ys), P p := by
  rw [pieces_append hxs]
  cases hps : pieces sep ys with
  | nil => exact absurd hps (pieces_ne_nil sep ys)
  | cons q qs =>
      rw [hps] at hys
      obtain ⟨hq, hqs⟩ := List.forall_mem_cons.1 hys
      exact List.forall_mem_cons.2 ⟨hfront q hq, hqs⟩

/-- The pieces joined again are the text. -/
theorem join_pieces (sep : α) (xs : List α) : join [sep] (pieces sep xs) = xs := by
  induction xs with
  | nil => rfl
  | cons x xs ih =>
      cases hxs : pieces sep xs with
      | nil => exact absurd hxs (pieces_ne_nil sep xs)
      | cons p ps =>
          rw [hxs] at ih
          by_cases hx : x = sep
          · rw [hx, pieces_cons_sep, hxs, join, ih]
            rfl
          · rw [pieces_cons_of_ne hx, hxs]
            cases ps with
            | nil => exact congrArg (x :: ·) ih
            | cons q rest => exact congrArg (x :: ·) ih

/-- A separator cuts a text in two, and the pieces with it. -/
theorem pieces_append_cons (sep : α) (xs ys : List α) :
    pieces sep (xs ++ sep :: ys) = pieces sep xs ++ pieces sep ys := by
  induction xs with
  | nil => exact pieces_cons_sep sep ys
  | cons x xs ih =>
      by_cases hx : x = sep
      · rw [hx, List.cons_append, pieces_cons_sep, ih, pieces_cons_sep, List.cons_append]
      · rw [List.cons_append, pieces_cons_of_ne hx, pieces_cons_of_ne hx, ih]
        cases hp : pieces sep xs with
        | nil => exact absurd hp (pieces_ne_nil sep xs)
        | cons p ps => rfl

theorem join_append {α : Type} (sep : List α) {ps qs : List (List α)} (hps : ps ≠ [])
    (hqs : qs ≠ []) : join sep (ps ++ qs) = join sep ps ++ sep ++ join sep qs := by
  obtain ⟨q, qs, rfl⟩ := List.exists_cons_of_ne_nil hqs
  fun_induction join sep ps with
  | case1 => exact absurd rfl hps
  | case2 p => rfl
  | case3 p p' rest ih =>
      have ih := ih (List.cons_ne_nil p' rest)
      rw [List.cons_append, List.cons_append, join, ← List.cons_append, ih]
      simp only [List.append_assoc]

/-- The pieces of a text come first among those of another exactly if that one is the
same text or goes on with a separator. -/
theorem pieces_isPrefix_iff {sep : α} {xs ys : List α} :
    pieces sep xs <+: pieces sep ys ↔ ys = xs ∨ xs ++ [sep] <+: ys := by
  constructor
  · rintro ⟨qs, hqs⟩
    have hys : ys = join [sep] (pieces sep xs ++ qs) := by rw [hqs, join_pieces]
    by_cases hnil : qs = []
    · refine .inl ?_
      rw [hys, hnil, List.append_nil, join_pieces]
    · refine .inr ⟨join [sep] qs, ?_⟩
      rw [hys, join_append [sep] (pieces_ne_nil sep xs) hnil, join_pieces]
  · rintro (rfl | ⟨rest, rfl⟩)
    · exact List.prefix_rfl
    · rw [List.append_assoc, List.singleton_append, pieces_append_cons]
      exact List.prefix_append _ _

/-- What a character in the middle of a text does to the pieces: it stands inside
one of them, or it cuts this one in two. -/
theorem pieces_around (sep : α) (front back : List α) :
    ∃ init left right tail,
      pieces sep (front ++ back) = init ++ (left ++ right) :: tail ∧
      pieces sep (front ++ sep :: back) = init ++ left :: right :: tail ∧
      ∀ c, c ≠ sep → pieces sep (front ++ c :: back) = init ++ (left ++ c :: right) :: tail := by
  -- the induction goes back to the middle, so that the piece around it grows to the left
  induction front with
  | nil =>
      cases hback : pieces sep back with
      | nil => exact absurd hback (pieces_ne_nil sep back)
      | cons p ps =>
          refine ⟨[], [], p, ps, hback, ?_, fun c hc => ?_⟩
          · exact (pieces_cons_sep sep back).trans (by rw [hback]; rfl)
          · exact (pieces_cons_of_ne hc back).trans (by rw [hback]; rfl)
  | cons x front ih =>
      obtain ⟨init, left, right, tail, hnone, hsep, hchar⟩ := ih
      by_cases hx : x = sep
      · refine ⟨[] :: init, left, right, tail, ?_⟩
        simp only [hx, List.cons_append, pieces_cons_sep, hnone, hsep, true_and]
        exact fun c hc => by rw [hchar c hc]
      · cases init with
        | nil =>
            refine ⟨[], x :: left, right, tail, ?_⟩
            simp only [List.cons_append, pieces_cons_of_ne hx, hnone, hsep]
            exact ⟨rfl, rfl, fun c hc => by rw [hchar c hc]; rfl⟩
        | cons p init =>
            refine ⟨(x :: p) :: init, left, right, tail, ?_⟩
            simp only [List.cons_append, pieces_cons_of_ne hx, hnone, hsep]
            exact ⟨rfl, rfl, fun c hc => by rw [hchar c hc]; rfl⟩

theorem pieces_map {α β : Type} [BEq α] [LawfulBEq α] [BEq β] [LawfulBEq β] {f : α → β} {sep : α}
    {sep' : β} (h : ∀ x, f x = sep' ↔ x = sep) (xs : List α) :
    pieces sep' (xs.map f) = (pieces sep xs).map (List.map f) := by
  induction xs with
  | nil => rfl
  | cons x xs ih =>
      rw [List.map_cons]
      by_cases hx : x = sep
      · rw [hx, (h sep).2 rfl, pieces_cons_sep, pieces_cons_sep, ih, List.map_cons, List.map_nil]
      · rw [pieces_cons_of_ne (mt (h x).1 hx), pieces_cons_of_ne hx, ih]
        cases hp : pieces sep xs with
        | nil => exact absurd hp (pieces_ne_nil sep xs)
        | cons p ps => rfl

theorem mem_join {α : Type} {sep : List α} {ps : List (List α)} {x : α} (h : x ∈ join sep ps) :
    x ∈ sep ∨ ∃ p ∈ ps, x ∈ p := by
  fun_induction join sep ps with
  | case1 => cases h
  | case2 p => exact .inr ⟨p, List.mem_singleton.2 rfl, h⟩
  | case3 p q rest ih =>
      rcases List.mem_append.1 h with hfront | hrest
      · rcases List.mem_append.1 hfront with hp | hsep
        · exact .inr ⟨p, List.mem_cons_self, hp⟩
        · exact .inl hsep
      · rcases ih hrest with hsep | ⟨p', hp', hx⟩
        · exact .inl hsep
        · exact .inr ⟨p', List.mem_cons_of_mem _ hp', hx⟩

end Split

namespace Decimal

theorem toNat_of_mem_natChars {m : Nat} {c : Char} (h : c ∈ natChars m) :
    48 ≤ c.toNat ∧ c.toNat ≤ 57 := by
  have hdigit := Nat.isDigit_of_mem_toDigits (by decide) (by decide) h
  simp only [Char.isDigit, Bool.and_eq_true, decide_eq_true_eq, ge_iff_le,
    UInt32.le_iff_toNat_le] at hdigit
  exact hdigit

end Decimal

namespace Percent

theorem decodeOnto_of_not_mem {bytes : List UInt8} (h : 0x25 ∉ bytes) (done : List UInt8) :
    decodeOnto done bytes = done.reverse ++ bytes := by
  induction bytes generalizing done with
  | nil => simp [decodeOnto]
  | cons b bytes ih =>
      have hb : b ≠ 0x25 := fun e => h (e ▸ List.mem_cons_self)
      have ih := ih fun hm => h (List.mem_cons_of_mem _ hm)
      rw [decodeOnto.eq_3 _ _ _ fun _ _ _ e => absurd e hb, ih]
      simp

theorem decode_encodeChars {cs : List Char} (h : '%' ∉ cs) :
    decode (Utf8.encodeChars cs) = Utf8.encodeChars cs :=
  decodeOnto_of_not_mem (fun hm => h (Utf8.mem_of_mem_encodeChars (by decide) hm)) []

theorem decode_encode {s : String} (h : '%' ∉ s.toList) :
    decode (Utf8.encode s) = Utf8.encode s :=
  decode_encodeChars h

/-- Text without a percent sign stands for itself. -/
theorem decodeText?_of_not_mem {s : String} (h : '%' ∉ s.toList) : decodeText? s = some s := by
  rw [decodeText?, decode_encode h, Utf8.decode?_encode]

end Percent

end AuthGateway
