import AuthGateway.Text.Base64

/-!
The base64 of some bytes reads back as these bytes, and no other text does: a digit has one
value, the bits that the last digits leave over are zero, and the padding is exact. A text
that can be read in both forms stands for the same bytes in both.
-/
namespace AuthGateway.Base64

variable {a : Alphabet}

structure Alphabet.IsProper (a : Alphabet) : Prop where
  value?_digit : ∀ n < 64, a.value? (a.digit n) = some n
  value?_pad : a.value? '=' = none

theorem Alphabet.IsProper.digit_ne_pad (ha : a.IsProper) {n : Nat} (h : n < 64) :
    a.digit n ≠ '=' := by
  intro hpad
  have hvalue := ha.value?_digit n h
  rw [hpad, ha.value?_pad] at hvalue
  cases hvalue

theorem standard_isProper : standard.IsProper :=
  ⟨by decide, by decide⟩

theorem urlSafe_isProper : urlSafe.IsProper :=
  ⟨by decide, by decide⟩

theorem value?_digit {n : Nat} (h : n < 64) : urlSafe.value? (urlSafe.digit n) = some n :=
  urlSafe_isProper.value?_digit n h

/-- What holds of the digits and of the padding holds of all that is written. -/
theorem forall_mem_encodeWith {P : Char → Prop} {fill : List Char}
    (hdigit : ∀ n < 64, P (a.digit n)) (hfill : ∀ c ∈ fill, P c) (bytes : List UInt8) :
    ∀ c ∈ encodeWith a fill bytes, P c := by
  fun_induction encodeWith a fill bytes with
  | case1 => exact List.forall_mem_nil _
  | case2 x =>
      have := x.toNat_lt
      simp only [List.forall_mem_cons, List.forall_mem_append]
      exact ⟨hdigit _ (by omega), hdigit _ (by omega), hfill, hfill⟩
  | case3 x y =>
      have := x.toNat_lt
      have := y.toNat_lt
      simp only [List.forall_mem_cons]
      exact ⟨hdigit _ (by omega), hdigit _ (by omega), hdigit _ (by omega), hfill⟩
  | case4 x y z rest ih =>
      have := x.toNat_lt
      have := y.toNat_lt
      have := z.toNat_lt
      simp only [List.forall_mem_cons]
      exact ⟨hdigit _ (by omega), hdigit _ (by omega), hdigit _ (by omega),
        hdigit _ (by omega), ih⟩

def isUrlSafe (c : Char) : Bool :=
  (urlSafe.value? c).isSome

theorem isUrlSafe_of_mem_encodeWith {bytes : List UInt8} {c : Char}
    (h : c ∈ encodeWith urlSafe [] bytes) : isUrlSafe c = true := by
  refine forall_mem_encodeWith (P := (isUrlSafe · = true)) (fun n hn => ?_)
    (List.forall_mem_nil _) bytes c h
  rw [isUrlSafe, value?_digit hn, Option.isSome_some]

theorem ofNat_eq_of_toNat {x : UInt8} {n : Nat} (h : n = x.toNat) : UInt8.ofNat n = x := by
  rw [h, UInt8.ofNat_toNat]

section Reading

variable (ha : a.IsProper) (x y z : UInt8)
include ha

theorem lastTwo?_digits :
    lastTwo? a (a.digit (x.toNat / 4)) (a.digit (x.toNat % 4 * 16)) = some [x] := by
  have hx := x.toNat_lt
  have h1 : x.toNat / 4 < 64 := by omega
  have h2 : x.toNat % 4 * 16 < 64 := by omega
  have e1 : UInt8.ofNat (x.toNat / 4 * 4 + x.toNat % 4 * 16 / 16) = x :=
    ofNat_eq_of_toNat (by omega)
  simp only [lastTwo?, ha.value?_digit _ h1, ha.value?_digit _ h2, Option.bind_eq_bind,
    Option.bind_some]
  rw [if_pos (by omega), e1]

theorem lastThree?_digits :
    lastThree? a (a.digit (x.toNat / 4)) (a.digit (x.toNat % 4 * 16 + y.toNat / 16))
      (a.digit (y.toNat % 16 * 4)) = some [x, y] := by
  have hx := x.toNat_lt
  have hy := y.toNat_lt
  have h1 : x.toNat / 4 < 64 := by omega
  have h2 : x.toNat % 4 * 16 + y.toNat / 16 < 64 := by omega
  have h3 : y.toNat % 16 * 4 < 64 := by omega
  have e1 : UInt8.ofNat (x.toNat / 4 * 4 + (x.toNat % 4 * 16 + y.toNat / 16) / 16) = x :=
    ofNat_eq_of_toNat (by omega)
  have e2 : UInt8.ofNat ((x.toNat % 4 * 16 + y.toNat / 16) % 16 * 16 +
      y.toNat % 16 * 4 / 4) = y := ofNat_eq_of_toNat (by omega)
  simp only [lastThree?, ha.value?_digit _ h1, ha.value?_digit _ h2, ha.value?_digit _ h3,
    Option.bind_eq_bind, Option.bind_some]
  rw [if_pos (by omega), e1, e2]

/-- Three bytes come back from their four digits. -/
theorem four?_digits :
    four? a (a.digit (x.toNat / 4)) (a.digit (x.toNat % 4 * 16 + y.toNat / 16))
      (a.digit (y.toNat % 16 * 4 + z.toNat / 64)) (a.digit (z.toNat % 64)) = some [x, y, z] := by
  have hx := x.toNat_lt
  have hy := y.toNat_lt
  have hz := z.toNat_lt
  have h1 : x.toNat / 4 < 64 := by omega
  have h2 : x.toNat % 4 * 16 + y.toNat / 16 < 64 := by omega
  have h3 : y.toNat % 16 * 4 + z.toNat / 64 < 64 := by omega
  have h4 : z.toNat % 64 < 64 := by omega
  have e1 : UInt8.ofNat (x.toNat / 4 * 4 + (x.toNat % 4 * 16 + y.toNat / 16) / 16) = x :=
    ofNat_eq_of_toNat (by omega)
  have e2 : UInt8.ofNat ((x.toNat % 4 * 16 + y.toNat / 16) % 16 * 16 +
      (y.toNat % 16 * 4 + z.toNat / 64) / 4) = y := ofNat_eq_of_toNat (by omega)
  have e3 : UInt8.ofNat ((y.toNat % 16 * 4 + z.toNat / 64) % 4 * 64 + z.toNat % 64) = z :=
    ofNat_eq_of_toNat (by omega)
  simp only [four?, ha.value?_digit _ h1, ha.value?_digit _ h2, ha.value?_digit _ h3,
    ha.value?_digit _ h4, Option.bind_eq_bind, Option.bind_some, Option.pure_def, e1, e2, e3]

/-- The form without padding reads back as the bytes it was made of. -/
theorem decodePlain?_encodeWith (bytes : List UInt8) :
    decodePlain? a (encodeWith a [] bytes) = some bytes := by
  fun_induction encodeWith a [] bytes with
  | case1 => rfl
  | case2 x => exact lastTwo?_digits ha x
  | case3 x y => exact lastThree?_digits ha x y
  | case4 x y z rest ih =>
      rw [decodePlain?, four?_digits ha, ih]
      rfl

/-- The form with padding reads back as the bytes it was made of. -/
theorem decodePadded?_encodeWith (bytes : List UInt8) :
    decodePadded? a (encodeWith a ['='] bytes) = some bytes := by
  fun_induction encodeWith a ['='] bytes with
  | case1 => rfl
  | case2 x => exact lastTwo?_digits ha x
  | case3 x y =>
      have hlast : a.digit (y.toNat % 16 * 4) ≠ '=' := ha.digit_ne_pad (by omega)
      rw [decodePadded?.eq_3 _ _ _ _ hlast, lastThree?_digits ha]
  | case4 x y z rest ih =>
      have hz := z.toNat_lt
      have hlast : a.digit (z.toNat % 64) ≠ '=' := ha.digit_ne_pad (by omega)
      rw [decodePadded?.eq_4 _ _ _ _ _ _ (fun _ hpad _ => hlast hpad) fun hpad _ => hlast hpad,
        four?_digits ha, ih]
      rfl

end Reading

theorem ofNat_of_toNat {c : Char} {n : Nat} (h : n = c.toNat) : Char.ofNat n = c := by
  rw [h, Char.ofNat_toNat]

/-- A digit that has a value is the digit of this value. -/
theorem digit_of_value? {c : Char} {n : Nat} (h : a.value? c = some n) :
    n < 64 ∧ a.digit n = c := by
  unfold Alphabet.value? at h
  unfold Alphabet.digit
  -- each range of digits holds the values of one range
  split at h
  · next hc =>
      have hlow : 65 ≤ c.toNat := hc.1
      have hhigh : c.toNat ≤ 90 := hc.2
      cases h
      rw [if_pos (by omega)]
      exact ⟨by omega, ofNat_of_toNat (by omega)⟩
  split at h
  · next hc =>
      have hlow : 97 ≤ c.toNat := hc.1
      have hhigh : c.toNat ≤ 122 := hc.2
      cases h
      rw [if_neg (by omega), if_pos (by omega)]
      exact ⟨by omega, ofNat_of_toNat (by omega)⟩
  split at h
  · next hc =>
      have hlow : 48 ≤ c.toNat := hc.1
      have hhigh : c.toNat ≤ 57 := hc.2
      cases h
      rw [if_neg (by omega), if_neg (by omega), if_pos (by omega)]
      exact ⟨by omega, ofNat_of_toNat (by omega)⟩
  split at h
  · next hc =>
      cases h
      exact ⟨by omega, hc.symm⟩
  split at h
  · next hc =>
      cases h
      exact ⟨by omega, hc.symm⟩
  · cases h

theorem toNat_first {m n : Nat} (hm : m < 64) (hn : n < 64) :
    (UInt8.ofNat (m * 4 + n / 16)).toNat = m * 4 + n / 16 := by
  rw [UInt8.toNat_ofNat']
  omega

theorem toNat_second {n o : Nat} (ho : o < 64) :
    (UInt8.ofNat (n % 16 * 16 + o / 4)).toNat = n % 16 * 16 + o / 4 := by
  rw [UInt8.toNat_ofNat']
  omega

theorem encodeWith_of_lastTwo? {c d : Char} {bytes : List UInt8}
    (h : lastTwo? a c d = some bytes) (fill : List Char) :
    encodeWith a fill bytes = c :: d :: (fill ++ fill) := by
  simp only [lastTwo?, Option.bind_eq_bind, Option.bind_eq_some_iff, Option.ite_none_right_eq_some,
    Option.some.injEq] at h
  obtain ⟨m, hm, n, hn, hzero, rfl⟩ := h
  obtain ⟨hmlt, rfl⟩ := digit_of_value? hm
  obtain ⟨hnlt, rfl⟩ := digit_of_value? hn
  have hx := toNat_first hmlt hnlt
  have h1 : (m * 4 + n / 16) / 4 = m := by omega
  have h2 : (m * 4 + n / 16) % 4 * 16 = n := by omega
  rw [encodeWith, hx, h1, h2]

theorem encodeWith_of_lastThree? {c d e : Char} {bytes : List UInt8}
    (h : lastThree? a c d e = some bytes) (fill : List Char) :
    encodeWith a fill bytes = c :: d :: e :: fill := by
  simp only [lastThree?, Option.bind_eq_bind, Option.bind_eq_some_iff,
    Option.ite_none_right_eq_some, Option.some.injEq] at h
  obtain ⟨m, hm, n, hn, o, ho, hzero, rfl⟩ := h
  obtain ⟨hmlt, rfl⟩ := digit_of_value? hm
  obtain ⟨hnlt, rfl⟩ := digit_of_value? hn
  obtain ⟨holt, rfl⟩ := digit_of_value? ho
  have hx := toNat_first hmlt hnlt
  have hy := toNat_second (n := n) holt
  have h1 : (m * 4 + n / 16) / 4 = m := by omega
  have h2 : (m * 4 + n / 16) % 4 * 16 + (n % 16 * 16 + o / 4) / 16 = n := by omega
  have h3 : (n % 16 * 16 + o / 4) % 16 * 4 = o := by omega
  rw [encodeWith, hx, hy, h1, h2, h3]

/-- Four digits that stand for bytes are what these are written as. -/
theorem encodeWith_of_four? {c d e f : Char} {bytes more : List UInt8}
    (h : four? a c d e f = some bytes) (fill : List Char) :
    encodeWith a fill (bytes ++ more) = c :: d :: e :: f :: encodeWith a fill more := by
  simp only [four?, Option.bind_eq_bind, Option.bind_eq_some_iff, Option.pure_def,
    Option.some.injEq] at h
  obtain ⟨m, hm, n, hn, o, ho, p, hp, rfl⟩ := h
  obtain ⟨hmlt, rfl⟩ := digit_of_value? hm
  obtain ⟨hnlt, rfl⟩ := digit_of_value? hn
  obtain ⟨holt, rfl⟩ := digit_of_value? ho
  obtain ⟨hplt, rfl⟩ := digit_of_value? hp
  have hx := toNat_first hmlt hnlt
  have hy := toNat_second (n := n) holt
  have hz : (UInt8.ofNat (o % 4 * 64 + p)).toNat = o % 4 * 64 + p := by
    rw [UInt8.toNat_ofNat']
    omega
  have h1 : (m * 4 + n / 16) / 4 = m := by omega
  have h2 : (m * 4 + n / 16) % 4 * 16 + (n % 16 * 16 + o / 4) / 16 = n := by omega
  have h3 : (n % 16 * 16 + o / 4) % 16 * 4 + (o % 4 * 64 + p) / 64 = o := by omega
  have h4 : (o % 4 * 64 + p) % 64 = p := by omega
  simp only [List.cons_append, List.nil_append, encodeWith, hx, hy, hz, h1, h2, h3, h4]

/-- Bytes are read from no other text than the one they are written as. -/
theorem encodeWith_of_decodePlain? {cs : List Char} {bytes : List UInt8}
    (h : decodePlain? a cs = some bytes) : encodeWith a [] bytes = cs := by
  fun_induction decodePlain? a cs generalizing bytes with
  | case1 =>
      cases h
      rfl
  | case2 c => cases h
  | case3 c d => exact encodeWith_of_lastTwo? h []
  | case4 c d e => exact encodeWith_of_lastThree? h []
  | case5 c d e f rest ih =>
      simp only [Option.bind_eq_bind, Option.bind_eq_some_iff, Option.pure_def,
        Option.some.injEq] at h
      obtain ⟨front, hfront, more, hmore, rfl⟩ := h
      rw [encodeWith_of_four? hfront [], ih hmore]

/-- The same with padding. -/
theorem encodeWith_of_decodePadded? {cs : List Char} {bytes : List UInt8}
    (h : decodePadded? a cs = some bytes) : encodeWith a ['='] bytes = cs := by
  fun_induction decodePadded? a cs generalizing bytes with
  | case1 =>
      cases h
      rfl
  | case2 c d => exact encodeWith_of_lastTwo? h ['=']
  | case3 c d e => exact encodeWith_of_lastThree? h ['=']
  | case4 c d e f rest _ _ ih =>
      simp only [Option.bind_eq_bind, Option.bind_eq_some_iff, Option.pure_def,
        Option.some.injEq] at h
      obtain ⟨front, hfront, more, hmore, rfl⟩ := h
      rw [encodeWith_of_four? hfront ['='], ih hmore]
  | case5 => cases h

/-- A digit of both alphabets has one value. -/
theorem value?_agree {c : Char} {m n : Nat} (hm : standard.value? c = some m)
    (hn : urlSafe.value? c = some n) : m = n := by
  have all : ∀ m < 64, ∀ n ∈ urlSafe.value? (standard.digit m), m = n := by decide
  obtain ⟨hlt, rfl⟩ := digit_of_value? hm
  exact all m hlt n hn

theorem four?_agree {c d e f : Char} {xs ys : List UInt8} (hx : four? standard c d e f = some xs)
    (hy : four? urlSafe c d e f = some ys) : xs = ys := by
  simp only [four?, Option.bind_eq_bind, Option.bind_eq_some_iff, Option.pure_def,
    Option.some.injEq] at hx hy
  obtain ⟨m, hm, n, hn, o, ho, p, hp, rfl⟩ := hx
  obtain ⟨m', hm', n', hn', o', ho', p', hp', rfl⟩ := hy
  rw [value?_agree hm hm', value?_agree hn hn', value?_agree ho ho', value?_agree hp hp']

theorem four?_pad (ha : a.IsProper) (c d e : Char) : four? a c d e '=' = none := by
  simp only [four?, ha.value?_pad, Option.bind_eq_bind, Option.bind_none, Option.bind_fun_none]

/-- A text that can be read in both forms stands for the same bytes in both. -/
theorem decodePadded?_agree {cs : List Char} {xs ys : List UInt8}
    (hx : decodePadded? standard cs = some xs) (hy : decodePlain? urlSafe cs = some ys) :
    xs = ys := by
  fun_induction decodePadded? standard cs generalizing xs ys with
  | case1 =>
      cases hx
      cases hy
      rfl
  | case2 c d =>
      rw [decodePlain?, four?_pad urlSafe_isProper] at hy
      cases hy
  | case3 c d e =>
      rw [decodePlain?, four?_pad urlSafe_isProper] at hy
      cases hy
  | case4 c d e f rest _ _ ih =>
      simp only [decodePlain?, Option.bind_eq_bind, Option.bind_eq_some_iff, Option.pure_def,
        Option.some.injEq] at hx hy
      obtain ⟨front, hfront, more, hmore, rfl⟩ := hx
      obtain ⟨front', hfront', more', hmore', rfl⟩ := hy
      rw [four?_agree hfront hfront', ih hmore hmore']
  | case5 => cases hx

/-- Reading one form and then, if it is not that one, the other, gives the bytes that the text
is a form of, whichever it is. -/
theorem decodeEither_eq_some_iff {cs : List Char} {bytes : List UInt8} :
    ((decodePadded? standard cs).orElse fun _ => decodePlain? urlSafe cs) = some bytes ↔
      cs = encodeWith standard ['='] bytes ∨ cs = encodeWith urlSafe [] bytes := by
  constructor
  · intro h
    cases hpadded : decodePadded? standard cs with
    | none =>
        rw [hpadded] at h
        exact .inr (encodeWith_of_decodePlain? h).symm
    | some xs =>
        rw [hpadded] at h
        cases h
        exact .inl (encodeWith_of_decodePadded? hpadded).symm
  · rintro (rfl | rfl)
    · rw [decodePadded?_encodeWith standard_isProper]
      rfl
    · have hplain := decodePlain?_encodeWith urlSafe_isProper bytes
      cases hpadded : decodePadded? standard (encodeWith urlSafe [] bytes) with
      | none => exact hplain
      | some xs => exact congrArg some (decodePadded?_agree hpadded hplain)

end AuthGateway.Base64
