import AuthGateway.Text.Utf8

/-!
UTF-8 is read as it was written: the one to four bytes of a character are read
as this character, whatever follows, so that every text is found again in its
bytes, and bytes in which nothing is malformed are the bytes of what is read.
-/
namespace AuthGateway.Utf8

@[simp]
theorem encodeChars_nil : encodeChars [] = [] := rfl

@[simp]
theorem encodeChars_cons (c : Char) (cs : List Char) :
    encodeChars (c :: cs) = encodeChar c ++ encodeChars cs :=
  List.flatMap_cons

@[simp]
theorem encodeChars_append (cs ds : List Char) :
    encodeChars (cs ++ ds) = encodeChars cs ++ encodeChars ds :=
  List.flatMap_append

theorem encodeChar_ne_nil (c : Char) : encodeChar c ≠ [] := by
  simp only [encodeChar]
  split
  · simp
  · split
    · simp
    · split <;> simp

theorem length_le_length_encodeChars (cs : List Char) : cs.length ≤ (encodeChars cs).length := by
  induction cs with
  | nil => exact Nat.le_refl _
  | cons c cs ih =>
      have hc : 0 < (encodeChar c).length := List.length_pos_iff.2 (encodeChar_ne_nil c)
      rw [encodeChars_cons, List.length_append, List.length_cons]
      omega

theorem encodeChar_of_ascii {c : Char} (h : c.toNat < 0x80) :
    encodeChar c = [UInt8.ofNat c.toNat] := by
  simp [encodeChar, h]

theorem encodeChars_of_ascii {cs : List Char} (h : ∀ c ∈ cs, c.toNat < 0x80) :
    encodeChars cs = cs.map fun c => UInt8.ofNat c.toNat := by
  induction cs with
  | nil => rfl
  | cons c cs ih =>
      have ih := ih fun d hd => h d (List.mem_cons_of_mem _ hd)
      simp [encodeChar_of_ascii (h c List.mem_cons_self), ih]

theorem toNat_ofNat {n : Nat} (h : n < 256) : (UInt8.ofNat n).toNat = n := by
  rw [UInt8.toNat_ofNat']
  exact Nat.mod_eq_of_lt h

theorem toNat_ofNat_of_valid {n : Nat} (h : n.isValidChar) : (Char.ofNat n).toNat = n := by
  rw [Char.ofNat, dif_pos h]
  exact UInt32.toNat_ofNatLT

theorem toNat_ofNat_of_byte {n : Nat} (h : n < 256) : (Char.ofNat n).toNat = n :=
  toNat_ofNat_of_valid (.inl (by omega))

theorem isContinuation_iff (b : UInt8) :
    isContinuation b = true ↔ 0x80 ≤ b.toNat ∧ b.toNat ≤ 0xBF := by
  simp [isContinuation, UInt8.le_iff_toNat_le]

theorem isSecondOfThree_iff (lead second : UInt8) :
    isSecondOfThree lead second = true ↔
      (if lead.toNat = 0xE0 then 0xA0 else 0x80) ≤ second.toNat ∧
        second.toNat ≤ if lead.toNat = 0xED then 0x9F else 0xBF := by
  have hlow : lead = 0xE0 ↔ lead.toNat = 0xE0 := UInt8.toNat_inj.symm
  have hhigh : lead = 0xED ↔ lead.toNat = 0xED := UInt8.toNat_inj.symm
  simp only [isSecondOfThree, Bool.and_eq_true, decide_eq_true_eq, UInt8.le_iff_toNat_le, hlow,
    hhigh]
  split <;> split <;> simp

theorem isSecondOfFour_iff (lead second : UInt8) :
    isSecondOfFour lead second = true ↔
      (if lead.toNat = 0xF0 then 0x90 else 0x80) ≤ second.toNat ∧
        second.toNat ≤ if lead.toNat = 0xF4 then 0x8F else 0xBF := by
  have hlow : lead = 0xF0 ↔ lead.toNat = 0xF0 := UInt8.toNat_inj.symm
  have hhigh : lead = 0xF4 ↔ lead.toNat = 0xF4 := UInt8.toNat_inj.symm
  simp only [isSecondOfFour, Bool.and_eq_true, decide_eq_true_eq, UInt8.le_iff_toNat_le, hlow,
    hhigh]
  split <;> split <;> simp

theorem within_iff (low high b : UInt8) :
    (low ≤ b && b ≤ high) = true ↔ low.toNat ≤ b.toNat ∧ b.toNat ≤ high.toNat := by
  simp [UInt8.le_iff_toNat_le]

theorem not_ascii {b : UInt8} (h : 0x80 ≤ b.toNat) : ¬ b < 0x80 := by
  rw [UInt8.lt_iff_toNat_lt]
  exact Nat.not_lt.2 h

variable {b0 b1 b2 b3 : UInt8}

theorem scan_one (h0 : b0.toNat < 0x80) (done : List (Option Char)) (rest : List UInt8) :
    scan done (b0 :: rest) = scan (some (Char.ofNat b0.toNat) :: done) rest := by
  rw [scan.eq_def]
  exact if_pos (UInt8.lt_iff_toNat_lt.2 h0)

theorem scan_two (h0 : 0xC2 ≤ b0.toNat ∧ b0.toNat ≤ 0xDF) (h1 : isContinuation b1 = true)
    (done : List (Option Char)) (rest : List UInt8) :
    scan done (b0 :: b1 :: rest) = scan (some (join (b0.toNat - 0xC0) [b1]) :: done) rest := by
  rw [scan.eq_def]
  dsimp only
  rw [if_neg (not_ascii (by omega)), if_pos ((within_iff 0xC2 0xDF b0).2 h0), if_pos h1]

theorem scan_three (h0 : 0xE0 ≤ b0.toNat ∧ b0.toNat ≤ 0xEF) (h1 : isSecondOfThree b0 b1 = true)
    (h2 : isContinuation b2 = true) (done : List (Option Char)) (rest : List UInt8) :
    scan done (b0 :: b1 :: b2 :: rest) =
      scan (some (join (b0.toNat - 0xE0) [b1, b2]) :: done) rest := by
  have htwo : ¬ (0xC2 ≤ b0 && b0 ≤ 0xDF) = true := by
    rw [within_iff]
    exact fun h => absurd h.2 (Nat.not_le.2 h0.1)
  rw [scan.eq_def]
  dsimp only
  rw [if_neg (not_ascii (by omega)), if_neg htwo, if_pos ((within_iff 0xE0 0xEF b0).2 h0),
    if_pos h1, if_pos h2]

theorem scan_four (h0 : 0xF0 ≤ b0.toNat ∧ b0.toNat ≤ 0xF4) (h1 : isSecondOfFour b0 b1 = true)
    (h2 : isContinuation b2 = true) (h3 : isContinuation b3 = true)
    (done : List (Option Char)) (rest : List UInt8) :
    scan done (b0 :: b1 :: b2 :: b3 :: rest) =
      scan (some (join (b0.toNat - 0xF0) [b1, b2, b3]) :: done) rest := by
  have htwo : ¬ (0xC2 ≤ b0 && b0 ≤ 0xDF) = true := by
    rw [within_iff]
    exact fun h => absurd (Nat.le_trans h0.1 h.2) (by decide)
  have hthree : ¬ (0xE0 ≤ b0 && b0 ≤ 0xEF) = true := by
    rw [within_iff]
    exact fun h => absurd (Nat.le_trans h0.1 h.2) (by decide)
  rw [scan.eq_def]
  dsimp only
  rw [if_neg (not_ascii (by omega)), if_neg htwo, if_neg hthree,
    if_pos ((within_iff 0xF0 0xF4 b0).2 h0), if_pos h1, if_pos h2, if_pos h3]

theorem isContinuation_ofNat {m : Nat} (h : m < 0x40) :
    isContinuation (UInt8.ofNat (0x80 + m)) = true := by
  rw [isContinuation_iff, toNat_ofNat (by omega)]
  omega

/-- Code points are below the surrogates, or past them and below the end. -/
theorem toNat_valid (c : Char) : c.toNat < 0xD800 ∨ 0xDFFF < c.toNat ∧ c.toNat < 0x110000 :=
  c.valid

/-- A byte of a character is its ASCII code, or no ASCII at all. -/
theorem toNat_of_mem_encodeChar {c : Char} {b : UInt8} (h : b ∈ encodeChar c) :
    b.toNat = c.toNat ∨ 0x80 ≤ b.toNat := by
  have hvalid := toNat_valid c
  unfold encodeChar at h
  dsimp only at h
  generalize c.toNat = n at hvalid h
  split at h
  · rw [List.mem_singleton.1 h, toNat_ofNat (by omega)]
    exact .inl rfl
  split at h
  · simp only [List.mem_cons, List.not_mem_nil, or_false] at h
    rcases h with rfl | rfl <;> rw [toNat_ofNat (by omega)] <;> omega
  split at h
  · simp only [List.mem_cons, List.not_mem_nil, or_false] at h
    rcases h with rfl | rfl | rfl <;> rw [toNat_ofNat (by omega)] <;> omega
  · simp only [List.mem_cons, List.not_mem_nil, or_false] at h
    rcases h with rfl | rfl | rfl | rfl <;> rw [toNat_ofNat (by omega)] <;> omega

/-- The bytes of a character are read as this character, whatever follows. -/
theorem scan_encodeChar (c : Char) (done : List (Option Char)) (rest : List UInt8) :
    scan done (encodeChar c ++ rest) = scan (some c :: done) rest := by
  have hvalid := toNat_valid c
  have hchar {n : Nat} (h : n = c.toNat) : Char.ofNat n = c := by rw [h, Char.ofNat_toNat]
  unfold encodeChar
  dsimp only
  generalize hn : c.toNat = n at hvalid hchar
  split
  · have h0 : (UInt8.ofNat n).toNat = n := toNat_ofNat (by omega)
    rw [List.singleton_append, scan_one (by omega), h0, hchar rfl]
  split
  · have h0 : (UInt8.ofNat (0xC0 + n / 0x40)).toNat = 0xC0 + n / 0x40 := toNat_ofNat (by omega)
    have h1 : (UInt8.ofNat (0x80 + n % 0x40)).toNat = 0x80 + n % 0x40 := toNat_ofNat (by omega)
    refine (scan_two (by omega) (isContinuation_ofNat (by omega)) done rest).trans ?_
    rw [join, List.foldl_cons, List.foldl_nil, h0, h1, hchar (by omega)]
  split
  · have h0 : (UInt8.ofNat (0xE0 + n / 0x1000)).toNat = 0xE0 + n / 0x1000 := toNat_ofNat (by omega)
    have h1 : (UInt8.ofNat (0x80 + n / 0x40 % 0x40)).toNat = 0x80 + n / 0x40 % 0x40 :=
      toNat_ofNat (by omega)
    have h2 : (UInt8.ofNat (0x80 + n % 0x40)).toNat = 0x80 + n % 0x40 := toNat_ofNat (by omega)
    -- neither overlong nor a surrogate
    have hsecond : isSecondOfThree (UInt8.ofNat (0xE0 + n / 0x1000))
        (UInt8.ofNat (0x80 + n / 0x40 % 0x40)) = true := by
      rw [isSecondOfThree_iff, h0, h1]
      split <;> split <;> omega
    refine (scan_three (by omega) hsecond (isContinuation_ofNat (by omega)) done rest).trans ?_
    rw [join, List.foldl_cons, List.foldl_cons, List.foldl_nil, h0, h1, h2, hchar (by omega)]
  · have h0 : (UInt8.ofNat (0xF0 + n / 0x40000)).toNat = 0xF0 + n / 0x40000 :=
      toNat_ofNat (by omega)
    have h1 : (UInt8.ofNat (0x80 + n / 0x1000 % 0x40)).toNat = 0x80 + n / 0x1000 % 0x40 :=
      toNat_ofNat (by omega)
    have h2 : (UInt8.ofNat (0x80 + n / 0x40 % 0x40)).toNat = 0x80 + n / 0x40 % 0x40 :=
      toNat_ofNat (by omega)
    have h3 : (UInt8.ofNat (0x80 + n % 0x40)).toNat = 0x80 + n % 0x40 := toNat_ofNat (by omega)
    -- neither overlong nor past the last code point
    have hsecond : isSecondOfFour (UInt8.ofNat (0xF0 + n / 0x40000))
        (UInt8.ofNat (0x80 + n / 0x1000 % 0x40)) = true := by
      rw [isSecondOfFour_iff, h0, h1]
      split <;> split <;> omega
    refine (scan_four (by omega) hsecond (isContinuation_ofNat (by omega))
      (isContinuation_ofNat (by omega)) done rest).trans ?_
    rw [join, List.foldl_cons, List.foldl_cons, List.foldl_cons, List.foldl_nil, h0, h1, h2, h3,
      hchar (by omega)]

theorem scan_encodeChars (cs : List Char) (done : List (Option Char)) :
    scan done (encodeChars cs) = done.reverse ++ cs.map some := by
  induction cs generalizing done with
  | nil => simp [encodeChars, scan]
  | cons c cs ih =>
      rw [encodeChars_cons, scan_encodeChar, ih]
      simp

/-- Every text reads back from its bytes. -/
theorem decodeChars?_encodeChars (cs : List Char) : decodeChars? (encodeChars cs) = some cs := by
  have hparts : parts (encodeChars cs) = cs.map some := scan_encodeChars cs []
  have hall : (cs.map some).all Option.isSome = true := by simp
  have hchars : (cs.map some).filterMap id = cs := by simp [List.filterMap_map]
  simp only [decodeChars?, hparts, hall, hchars, if_true]

theorem decode?_encodeChars (cs : List Char) :
    decode? (encodeChars cs) = some (String.ofList cs) := by
  rw [decode?, decodeChars?_encodeChars, Option.map_some]

theorem decode?_encode (s : String) : decode? (encode s) = some s := by
  rw [encode, decode?_encodeChars, String.ofList_toList]

theorem encode_inj {s t : String} : encode s = encode t ↔ s = t := by
  constructor
  · intro h
    have hs := decode?_encode s
    rw [h, decode?_encode] at hs
    exact (Option.some.inj hs).symm
  · exact congrArg encode

theorem decodeLossy_encode (s : String) : decodeLossy (encode s) = s := by
  have hparts : parts (encode s) = s.toList.map some := scan_encodeChars s.toList []
  have hchars : decodeLossyChars (encode s) = s.toList := by
    rw [decodeLossyChars, hparts, List.map_map]
    exact List.map_id _
  rw [decodeLossy, hchars, String.ofList_toList]

/-- Bytes of ASCII stand for themselves only: they are characters of the text. -/
theorem mem_of_mem_encodeChars {cs : List Char} {b : UInt8} (hb : b.toNat < 0x80)
    (h : b ∈ encodeChars cs) : Char.ofNat b.toNat ∈ cs := by
  obtain ⟨c, hc, hbc⟩ := List.mem_flatMap.1 h
  rcases toNat_of_mem_encodeChar hbc with hsame | hhigh
  · rw [hsame, Char.ofNat_toNat]
    exact hc
  · omega

/-! The characters that are read have the bytes they were read from. -/

theorem isValidChar_iff (n : Nat) : n.isValidChar ↔ n < 0xD800 ∨ 0xDFFF < n ∧ n < 0x110000 :=
  Iff.rfl

theorem encodeChar_one (h0 : b0.toNat < 0x80) : encodeChar (Char.ofNat b0.toNat) = [b0] := by
  have hchar := toNat_ofNat_of_byte b0.toNat_lt
  rw [encodeChar_of_ascii (by omega), hchar, UInt8.ofNat_toNat]

theorem eq_ofNat {b : UInt8} {n : Nat} (h : n = b.toNat) : UInt8.ofNat n = b := by
  rw [h, UInt8.ofNat_toNat]

theorem encodeChar_two (h0 : 0xC2 ≤ b0.toNat ∧ b0.toNat ≤ 0xDF) (h1 : isContinuation b1 = true) :
    encodeChar (join (b0.toNat - 0xC0) [b1]) = [b0, b1] := by
  have h1 := (isContinuation_iff b1).1 h1
  rw [join, List.foldl_cons, List.foldl_nil]
  have hchar : (Char.ofNat ((b0.toNat - 0xC0) * 0x40 + (b1.toNat - 0x80))).toNat =
      (b0.toNat - 0xC0) * 0x40 + (b1.toNat - 0x80) := toNat_ofNat_of_valid (.inl (by omega))
  simp only [encodeChar, hchar]
  rw [if_neg (by omega), if_pos (by omega), eq_ofNat (b := b0) (by omega),
    eq_ofNat (b := b1) (by omega)]

theorem encodeChar_three (h0 : 0xE0 ≤ b0.toNat ∧ b0.toNat ≤ 0xEF)
    (h1 : isSecondOfThree b0 b1 = true) (h2 : isContinuation b2 = true) :
    encodeChar (join (b0.toNat - 0xE0) [b1, b2]) = [b0, b1, b2] := by
  have h1 := (isSecondOfThree_iff b0 b1).1 h1
  have h2 := (isContinuation_iff b2).1 h2
  rw [join, List.foldl_cons, List.foldl_cons, List.foldl_nil]
  have hlow : 0x80 ≤ b1.toNat ∧ b1.toNat ≤ 0xBF := by
    split at h1 <;> split at h1 <;> omega
  have hchar : (Char.ofNat (((b0.toNat - 0xE0) * 0x40 + (b1.toNat - 0x80)) * 0x40 +
      (b2.toNat - 0x80))).toNat =
      ((b0.toNat - 0xE0) * 0x40 + (b1.toNat - 0x80)) * 0x40 + (b2.toNat - 0x80) := by
    refine toNat_ofNat_of_valid ((isValidChar_iff _).2 ?_)
    split at h1 <;> split at h1 <;> omega
  have hsize : 0x800 ≤ ((b0.toNat - 0xE0) * 0x40 + (b1.toNat - 0x80)) * 0x40 + (b2.toNat - 0x80) := by
    split at h1 <;> split at h1 <;> omega
  simp only [encodeChar, hchar]
  rw [if_neg (by omega), if_neg (by omega), if_pos (by omega), eq_ofNat (b := b0) (by omega),
    eq_ofNat (b := b1) (by omega), eq_ofNat (b := b2) (by omega)]

/-- The character of four well-formed bytes has these bytes. -/
theorem encodeChar_four (h0 : 0xF0 ≤ b0.toNat ∧ b0.toNat ≤ 0xF4)
    (h1 : isSecondOfFour b0 b1 = true) (h2 : isContinuation b2 = true)
    (h3 : isContinuation b3 = true) :
    encodeChar (join (b0.toNat - 0xF0) [b1, b2, b3]) = [b0, b1, b2, b3] := by
  have h1 := (isSecondOfFour_iff b0 b1).1 h1
  have h2 := (isContinuation_iff b2).1 h2
  have h3 := (isContinuation_iff b3).1 h3
  rw [join, List.foldl_cons, List.foldl_cons, List.foldl_cons, List.foldl_nil]
  have hlow : 0x80 ≤ b1.toNat ∧ b1.toNat ≤ 0xBF := by
    split at h1 <;> split at h1 <;> omega
  have hrange : 0x10000 ≤ (((b0.toNat - 0xF0) * 0x40 + (b1.toNat - 0x80)) * 0x40 +
      (b2.toNat - 0x80)) * 0x40 + (b3.toNat - 0x80) ∧
      (((b0.toNat - 0xF0) * 0x40 + (b1.toNat - 0x80)) * 0x40 +
      (b2.toNat - 0x80)) * 0x40 + (b3.toNat - 0x80) < 0x110000 := by
    split at h1 <;> split at h1 <;> omega
  have hchar : (Char.ofNat ((((b0.toNat - 0xF0) * 0x40 + (b1.toNat - 0x80)) * 0x40 +
      (b2.toNat - 0x80)) * 0x40 + (b3.toNat - 0x80))).toNat =
      (((b0.toNat - 0xF0) * 0x40 + (b1.toNat - 0x80)) * 0x40 +
      (b2.toNat - 0x80)) * 0x40 + (b3.toNat - 0x80) :=
    toNat_ofNat_of_valid ((isValidChar_iff _).2 (by omega))
  simp only [encodeChar, hchar]
  rw [if_neg (by omega), if_neg (by omega), if_neg (by omega), eq_ofNat (b := b0) (by omega),
    eq_ofNat (b := b1) (by omega), eq_ofNat (b := b2) (by omega), eq_ofNat (b := b3) (by omega)]

/-- What is read stays read. -/
theorem mem_scan {done : List (Option Char)} {p : Option Char} (hp : p ∈ done)
    (bytes : List UInt8) : p ∈ scan done bytes := by
  fun_induction scan done bytes <;> simp_all

/-- Reading that meets nothing malformed has read all bytes. -/
theorem encodeChars_of_scan {done : List (Option Char)} {bytes : List UInt8}
    (h : none ∉ scan done bytes) :
    encodeChars ((scan done bytes).filterMap id) =
      encodeChars (done.reverse.filterMap id) ++ bytes := by
  fun_induction scan done bytes
  case case1 done => rw [List.append_nil]
  case case2 done b0 rest hb0 ih =>
    rw [ih h]
    simp [encodeChar_one (UInt8.lt_iff_toNat_lt.1 hb0)]
  case case4 done b0 hb0 h0 b1 rest h1 ih =>
    rw [ih h]
    simp [encodeChar_two ((within_iff 0xC2 0xDF b0).1 h0) h1]
  case case8 done b0 hb0 _ h0 b1 h1 b2 rest h2 ih =>
    rw [ih h]
    simp [encodeChar_three ((within_iff 0xE0 0xEF b0).1 h0) h1 h2]
  case case14 done b0 hb0 _ _ h0 b1 h1 b2 h2 b3 rest h3 ih =>
    rw [ih h]
    simp [encodeChar_four ((within_iff 0xF0 0xF4 b0).1 h0) h1 h2 h3]
  -- A malformed part stays among what is read.
  all_goals
    exact absurd (by simp [mem_scan]) h

/-- Bytes that are read as a text are the bytes of this text. -/
theorem encode_of_decode? {bytes : List UInt8} {s : String} (h : decode? bytes = some s) :
    encode s = bytes := by
  obtain ⟨cs, hcs, rfl⟩ := Option.map_eq_some_iff.1 h
  rw [decodeChars?, Option.ite_none_right_eq_some] at hcs
  obtain ⟨hall, hcs⟩ := hcs
  have hnone : none ∉ parts bytes := fun hm => by simpa using List.all_eq_true.1 hall none hm
  rw [encode, String.toList_ofList, ← Option.some.inj hcs]
  exact encodeChars_of_scan hnone

theorem decode?_eq_some_iff {bytes : List UInt8} {s : String} :
    decode? bytes = some s ↔ bytes = encode s :=
  ⟨fun h => (encode_of_decode? h).symm, fun h => by rw [h, decode?_encode]⟩

end AuthGateway.Utf8
