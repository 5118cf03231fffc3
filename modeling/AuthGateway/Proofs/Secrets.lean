import AuthGateway.Csrf.Guard
import AuthGateway.Proofs.Cookies

/-!
How a secret is brought back and compared. Texts are compared byte by byte; the
text of a header is the one that its bytes write in visible ASCII; and a named
value of a form is read as what it stands for, however its bytes are escaped.
-/
namespace AuthGateway

namespace Secret

theorem foldl_or_eq_zero_iff (xs : List UInt8) (acc : UInt8) :
    xs.foldl (· ||| ·) acc = 0 ↔ acc = 0 ∧ ∀ x ∈ xs, x = 0 := by
  induction xs generalizing acc with
  | nil => simp
  | cons x xs ih =>
      rw [List.foldl_cons, ih, List.forall_mem_cons, UInt8.or_eq_zero_iff, and_assoc]

theorem forall_zipWith_xor_iff {xs ys : List UInt8} (h : xs.length = ys.length) :
    (∀ z ∈ List.zipWith (· ^^^ ·) xs ys, z = 0) ↔ xs = ys := by
  induction xs generalizing ys with
  | nil => simp [List.eq_nil_of_length_eq_zero h.symm]
  | cons x xs ih =>
      cases ys with
      | nil => cases h
      | cons y ys =>
          rw [List.zipWith_cons_cons, List.forall_mem_cons, ih (Nat.succ.inj h),
            UInt8.xor_eq_zero_iff, List.cons.injEq]

/-- The comparison that looks at every byte tells the same texts as equal. -/
theorem equal_iff (a b : String) : equal a b = true ↔ a = b := by
  rw [equal, Bool.and_eq_true, beq_iff_eq, beq_iff_eq, foldl_or_eq_zero_iff, ← Utf8.encode_inj]
  constructor
  · rintro ⟨hlength, -, hzero⟩
    exact (forall_zipWith_xor_iff hlength).1 hzero
  · intro h
    exact ⟨congrArg List.length h, rfl, (forall_zipWith_xor_iff (congrArg List.length h)).2 h⟩

theorem isTokenChar_of_mem_csrfToken {random : Octets 24} {c : Char}
    (h : c ∈ (csrfToken random).toList) : Token.isTokenChar c = true := by
  rw [csrfToken, nonce, Base64.encodeUrl, String.toList_ofList] at h
  simp [Token.isTokenChar, Base64.isUrlSafe_of_mem_encodeWith h]

end Secret

namespace Http

theorem isVisibleByte_iff (b : UInt8) :
    HeaderValue.isVisibleByte b = true ↔ 0x20 ≤ b.toNat ∧ b.toNat ≤ 0x7E ∨ b.toNat = 9 := by
  simp [HeaderValue.isVisibleByte, UInt8.le_iff_toNat_le, ← UInt8.toNat_inj]

/-- A header value has the text that it writes in visible ASCII. -/
theorem text?_eq_some_iff {v : HeaderValue} {s : String} :
    v.text? = some s ↔
      (∀ b ∈ v.bytes, HeaderValue.isVisibleByte b = true) ∧ v.bytes = Utf8.encode s := by
  -- visible bytes are characters of their own
  have hback : ∀ bytes : List UInt8, (∀ b ∈ bytes, HeaderValue.isVisibleByte b = true) →
      Utf8.encodeChars (bytes.map fun b => Char.ofNat b.toNat) = bytes := by
    intro bytes hvisible
    induction bytes with
    | nil => rfl
    | cons b bytes ih =>
        obtain ⟨hb, hbytes⟩ := List.forall_mem_cons.1 hvisible
        have hlow : b.toNat < 0x80 := by
          have := (isVisibleByte_iff b).1 hb
          omega
        have hchar := Utf8.toNat_ofNat_of_byte b.toNat_lt
        rw [List.map_cons, Utf8.encodeChars_cons, Utf8.encodeChar_of_ascii (by omega), hchar,
          UInt8.ofNat_toNat, ih hbytes, List.singleton_append]
  rw [HeaderValue.text?, Option.ite_none_right_eq_some, List.all_eq_true, Option.some.injEq]
  constructor
  · rintro ⟨hvisible, rfl⟩
    refine ⟨hvisible, ?_⟩
    rw [Utf8.encode, String.toList_ofList, hback _ hvisible]
  · rintro ⟨hvisible, hbytes⟩
    refine ⟨hvisible, Utf8.encode_inj.1 ?_⟩
    rw [Utf8.encode, String.toList_ofList, hback _ hvisible, hbytes]

end Http

namespace Form

def IsFirst (name : String) (pairs : List (String × String)) (value : String) : Prop :=
  ∃ front back, pairs = front ++ (name, value) :: back ∧ ∀ p ∈ front, p.1 ≠ name

/-- The parameter that is found is the first one of its name. -/
theorem first?_eq_some_iff {name value : String} {bytes : List UInt8} :
    first? name bytes = some value ↔ IsFirst name (pairs bytes) value := by
  rw [first?, Option.map_eq_some_iff, IsFirst]
  constructor
  · rintro ⟨p, hp, rfl⟩
    obtain ⟨hname, front, back, hsplit, hfront⟩ := List.find?_eq_some_iff_append.1 hp
    obtain rfl : p.1 = name := beq_iff_eq.1 hname
    refine ⟨front, back, hsplit, ?_⟩
    intro q hq
    simpa using hfront q hq
  · rintro ⟨front, back, hsplit, hfront⟩
    refine ⟨(name, value), List.find?_eq_some_iff_append.2 ⟨beq_self_eq_true name, front, back,
      hsplit, ?_⟩, rfl⟩
    intro q hq
    simpa using hfront q hq

/-- Bytes of a form and the bytes that they stand for: a plus sign is a space, an escape is the
byte of its two digits, and all else is itself. -/
inductive Writes : List UInt8 → List UInt8 → Prop
  | nil : Writes [] []
  | same {b : UInt8} {written read : List UInt8} (hplus : b ≠ 0x2B) (hpercent : b ≠ 0x25)
      (h : Writes written read) : Writes (b :: written) (b :: read)
  | space {written read : List UInt8} (h : Writes written read) :
      Writes (0x2B :: written) (0x20 :: read)
  | escaped {hi lo : UInt8} {m n : Nat} {written read : List UInt8}
      (hhi : Hex.value? (Char.ofNat hi.toNat) = some m)
      (hlo : Hex.value? (Char.ofNat lo.toNat) = some n) (h : Writes written read) :
      Writes (0x25 :: hi :: lo :: written) (UInt8.ofNat (16 * m + n) :: read)

/-- Decoding gives what the bytes stand for, behind what was decoded before. -/
theorem decodeOnto_of_writes {written read : List UInt8} (h : Writes written read)
    (done : List UInt8) :
    Percent.decodeOnto done (written.map fun b => if b = 0x2B then 0x20 else b) =
      done.reverse ++ read := by
  induction h generalizing done with
  | nil => simp [Percent.decodeOnto]
  | @same b written read hplus hpercent _ ih =>
      rw [List.map_cons, if_neg hplus, Percent.decodeOnto.eq_3 _ _ _ fun _ _ _ e =>
        absurd e hpercent, ih]
      simp
  | space _ ih =>
      rw [List.map_cons, if_pos rfl, Percent.decodeOnto.eq_3 _ _ _ fun _ _ _ e =>
        absurd e (by decide), ih]
      simp
  | @escaped hi lo m n written read hhi hlo _ ih =>
      -- a digit is no plus sign, so that the escape is still there when it is decoded
      have hkept : ∀ {d : UInt8} {k : Nat}, Hex.value? (Char.ofNat d.toNat) = some k → d ≠ 0x2B := by
        rintro d k hd rfl
        cases hd
      have hbyte : Percent.byte? hi lo = some (UInt8.ofNat (16 * m + n)) := by
        simp [Percent.byte?, hhi, hlo]
      rw [List.map_cons, List.map_cons, List.map_cons, if_neg (by decide), if_neg (hkept hhi),
        if_neg (hkept hlo), Percent.decodeOnto, hbyte]
      dsimp only
      rw [ih]
      simp

theorem decodeText_of_writes {bytes : List UInt8} {s : String}
    (h : Writes bytes (Utf8.encode s)) : decodeText bytes = s := by
  rw [decodeText, Percent.decode, decodeOnto_of_writes h, List.reverse_nil, List.nil_append,
    Utf8.decodeLossy_encode]

/-- A named value is read as what it stands for, in whatever way its bytes are written. -/
theorem pair_of_writes {written written' : List UInt8} {name value : String}
    (hname : Writes written (Utf8.encode name)) (hvalue : Writes written' (Utf8.encode value))
    (heq : 0x3D ∉ written) : pair (written ++ 0x3D :: written') = (name, value) := by
  rw [pair, Split.before_append_sep heq, Split.after?_append_sep heq, Option.getD_some,
    decodeText_of_writes hname, decodeText_of_writes hvalue]

example : pair (Utf8.encode "C%53RFToken=a%2Bb+%c3%a9") = ("CSRFToken", "a+b é") := by
  decide +kernel

/-- Nothing in a text stands for anything else in a form. -/
def IsPlain (s : String) : Prop :=
  '+' ∉ s.toList ∧ '%' ∉ s.toList

theorem writes_self {bytes : List UInt8} (hplus : 0x2B ∉ bytes) (hpercent : 0x25 ∉ bytes) :
    Writes bytes bytes := by
  induction bytes with
  | nil => exact .nil
  | cons b rest ih =>
      rw [List.mem_cons, not_or] at hplus hpercent
      exact .same (Ne.symm hplus.1) (Ne.symm hpercent.1) (ih hplus.2 hpercent.2)

theorem IsPlain.writes {s : String} (h : IsPlain s) : Writes (Utf8.encode s) (Utf8.encode s) := by
  refine writes_self (fun hm => ?_) (fun hm => ?_)
  · exact h.1 (Utf8.mem_of_mem_encodeChars (by decide) hm)
  · exact h.2 (Utf8.mem_of_mem_encodeChars (by decide) hm)

/-- A named value without escapes is read as it was written. -/
theorem pair_encode {name value : String} (hname : IsPlain name) (hvalue : IsPlain value)
    (heq : '=' ∉ name.toList) : pair (Utf8.encode (name ++ "=" ++ value)) = (name, value) := by
  have hsep : (0x3D : UInt8) ∉ Utf8.encode name := by
    intro hm
    exact heq (Utf8.mem_of_mem_encodeChars (by decide) hm)
  have hbytes : Utf8.encode (name ++ "=" ++ value) =
      Utf8.encode name ++ 0x3D :: Utf8.encode value := by
    simp [Utf8.encode, Utf8.encodeChars_append, Utf8.encodeChar]
  rw [hbytes, pair_of_writes hname.writes hvalue.writes hsep]

/-- A named value stands in a form as it is, in front of all others that have its
name. -/
def Sends (bytes : List UInt8) (name value : String) : Prop :=
  ∃ front back, Split.pieces 0x26 bytes = front ++ Utf8.encode (name ++ "=" ++ value) :: back ∧
    ∀ piece ∈ front, (pair piece).1 ≠ name

theorem isFirst_of_sends {bytes : List UInt8} {name value : String} (hname : IsPlain name)
    (hvalue : IsPlain value) (heq : '=' ∉ name.toList)
    (h : Sends bytes name value) : IsFirst name (pairs bytes) value := by
  obtain ⟨front, back, hpieces, hfirst⟩ := h
  have hsome : (!(Utf8.encode (name ++ "=" ++ value)).isEmpty) = true := by
    simp [Utf8.encode, Utf8.encodeChars_append, Utf8.encodeChar]
  refine ⟨(front.filter fun p => !p.isEmpty).map pair, (back.filter fun p => !p.isEmpty).map pair,
    ?_, ?_⟩
  · rw [pairs, hpieces, List.filter_append, List.filter_cons, if_pos hsome,
      List.map_append, List.map_cons, pair_encode hname hvalue heq]
  · intro p hp
    obtain ⟨piece, hpiece, rfl⟩ := List.mem_map.1 hp
    exact hfirst piece (List.mem_filter.1 hpiece).1

end Form

end AuthGateway
