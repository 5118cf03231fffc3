import AuthGateway.Proofs.Text
import AuthGateway.Url.Host

/-!
The case of letters in hosts. It means nothing in any step by which a host is
read: the bytes of a text, percent escapes, the characters of the decoded bytes,
the mapping of domains, and the digits of an address. A text and its lower case
therefore name one host.
-/
namespace AuthGateway

open Ascii (lowerChar)

namespace Utf8

def lowerByte (b : UInt8) : UInt8 :=
  if 0x41 ≤ b ∧ b ≤ 0x5A then b + 0x20 else b

theorem toNat_lowerByte (b : UInt8) :
    (lowerByte b).toNat = if 65 ≤ b.toNat ∧ b.toNat ≤ 90 then b.toNat + 32 else b.toNat := by
  unfold lowerByte
  simp only [UInt8.le_iff_toNat_le]
  split
  · next h =>
      have hrange : 65 ≤ b.toNat ∧ b.toNat ≤ 90 := h
      rw [if_pos hrange, UInt8.toNat_add]
      exact Nat.mod_eq_of_lt (by simp; omega)
  · next h => exact (if_neg h).symm

theorem lowerByte_lowerByte (b : UInt8) : lowerByte (lowerByte b) = lowerByte b := by
  rw [← UInt8.toNat_inj, toNat_lowerByte, toNat_lowerByte]
  split
  · rw [if_neg (by omega)]
  · rfl

theorem lowerByte_of_high {b : UInt8} (h : 0x80 ≤ b.toNat) : lowerByte b = b := by
  rw [← UInt8.toNat_inj, toNat_lowerByte, if_neg (by omega)]

theorem encodeChar_lowerChar (c : Char) :
    encodeChar (lowerChar c) = (encodeChar c).map lowerByte := by
  by_cases hc : c.toNat < 0x80
  · have hlow := (Ascii.toNat_lowerChar_lt_iff c).2 hc
    rw [encodeChar_of_ascii hlow, encodeChar_of_ascii hc, List.map_singleton, List.singleton_inj,
      ← UInt8.toNat_inj, toNat_lowerByte, toNat_ofNat (by omega), toNat_ofNat (by omega),
      Ascii.toNat_lowerChar]
  · rw [Ascii.lowerChar_of_not_ascii hc]
    symm
    refine (List.map_congr_left fun b hb => lowerByte_of_high ?_).trans (List.map_id _)
    have := toNat_of_mem_encodeChar hb
    omega

theorem encodeChars_map_lowerChar (cs : List Char) :
    encodeChars (cs.map lowerChar) = (encodeChars cs).map lowerByte := by
  induction cs with
  | nil => rfl
  | cons c cs ih =>
      rw [List.map_cons, encodeChars_cons, encodeChars_cons, List.map_append,
        encodeChar_lowerChar, ih]

theorem lowerByte_lt_iff (b : UInt8) : lowerByte b < 0x80 ↔ b < 0x80 := by
  simp only [UInt8.lt_iff_toNat_lt, toNat_lowerByte]
  split
  · simp
    omega
  · rfl

theorem lowerByte_of_not_lt {b : UInt8} (h : ¬ b < 0x80) : lowerByte b = b :=
  lowerByte_of_high (Nat.not_lt.1 fun hlt => h (UInt8.lt_iff_toNat_lt.2 hlt))

theorem lowerByte_of_continuation {b : UInt8} (h : isContinuation b = true) : lowerByte b = b :=
  lowerByte_of_high ((isContinuation_iff b).1 h).1

theorem isContinuation_lowerByte (b : UInt8) :
    isContinuation (lowerByte b) = isContinuation b := by
  rw [Bool.eq_iff_iff, isContinuation_iff, isContinuation_iff, toNat_lowerByte]
  split <;> omega

theorem isSecondOfThree_lowerByte (lead b : UInt8) :
    isSecondOfThree lead (lowerByte b) = isSecondOfThree lead b := by
  rw [Bool.eq_iff_iff, isSecondOfThree_iff, isSecondOfThree_iff, toNat_lowerByte]
  split <;> split <;> split <;> omega

theorem isSecondOfFour_lowerByte (lead b : UInt8) :
    isSecondOfFour lead (lowerByte b) = isSecondOfFour lead b := by
  rw [Bool.eq_iff_iff, isSecondOfFour_iff, isSecondOfFour_iff, toNat_lowerByte]
  split <;> split <;> split <;> omega

theorem lowerChar_ofNat {n : Nat} (h : 90 < n) : lowerChar (Char.ofNat n) = Char.ofNat n := by
  rw [← Char.toNat_inj, Ascii.toNat_lowerChar]
  refine if_neg ?_
  by_cases hvalid : n.isValidChar
  · rw [toNat_ofNat_of_valid hvalid]
    omega
  · rw [Char.ofNat, dif_neg hvalid]
    decide

theorem ofNat_lowerByte (b : UInt8) :
    Char.ofNat (lowerByte b).toNat = lowerChar (Char.ofNat b.toNat) := by
  rw [← Char.toNat_inj, Ascii.toNat_lowerChar, toNat_ofNat_of_byte b.toNat_lt,
    toNat_ofNat_of_byte (lowerByte b).toNat_lt, toNat_lowerByte]

/-- Bytes in lower case are read as the same characters in lower case. -/
theorem scan_map_lowerByte (done : List (Option Char)) (bytes : List UInt8) :
    scan (done.map (Option.map lowerChar)) (bytes.map lowerByte) =
      (scan done bytes).map (Option.map lowerChar) := by
  fun_induction scan done bytes
  case case2 done b rest hb ih =>
    rw [List.map_cons, scan_one ((lowerByte_lt_iff b).2 hb), ofNat_lowerByte]
    exact ih
  case case4 done b0 hb0 h0 b1 rest h1 ih =>
    have h0' := (within_iff 0xC2 0xDF b0).1 h0
    have hchar : lowerChar (join (b0.toNat - 0xC0) [b1]) = join (b0.toNat - 0xC0) [b1] := by
      refine lowerChar_ofNat ?_
      simp only [List.foldl_cons, List.foldl_nil]
      have : 0xC2 ≤ b0.toNat := h0'.1
      omega
    rw [List.map_cons, List.map_cons, lowerByte_of_not_lt hb0, lowerByte_of_continuation h1,
      scan_two h0' h1, ← ih, List.map_cons, Option.map_some, hchar]
  case case8 done b0 hb0 _ h0 b1 h1 b2 rest h2 ih =>
    have h0' := (within_iff 0xE0 0xEF b0).1 h0
    have hfirst : 0xE0 ≤ b0.toNat := h0'.1
    have hsecond := ((isSecondOfThree_iff b0 b1).1 h1).1
    have hb1 : lowerByte b1 = b1 := lowerByte_of_high (by split at hsecond <;> omega)
    have hchar : lowerChar (join (b0.toNat - 0xE0) [b1, b2]) = join (b0.toNat - 0xE0) [b1, b2] := by
      refine lowerChar_ofNat ?_
      simp only [List.foldl_cons, List.foldl_nil]
      split at hsecond <;> omega
    rw [List.map_cons, List.map_cons, List.map_cons, lowerByte_of_not_lt hb0, hb1,
      lowerByte_of_continuation h2, scan_three h0' h1 h2, ← ih, List.map_cons, Option.map_some,
      hchar]
  case case14 done b0 hb0 _ _ h0 b1 h1 b2 h2 b3 rest h3 ih =>
    have h0' := (within_iff 0xF0 0xF4 b0).1 h0
    have hfirst : 0xF0 ≤ b0.toNat := h0'.1
    have hsecond := ((isSecondOfFour_iff b0 b1).1 h1).1
    have hb1 : lowerByte b1 = b1 := lowerByte_of_high (by split at hsecond <;> omega)
    have hchar : lowerChar (join (b0.toNat - 0xF0) [b1, b2, b3]) =
        join (b0.toNat - 0xF0) [b1, b2, b3] := by
      refine lowerChar_ofNat ?_
      simp only [List.foldl_cons, List.foldl_nil]
      split at hsecond <;> omega
    rw [List.map_cons, List.map_cons, List.map_cons, List.map_cons, lowerByte_of_not_lt hb0, hb1,
      lowerByte_of_continuation h2, lowerByte_of_continuation h3, scan_four h0' h1 h2 h3, ← ih,
      List.map_cons, Option.map_some, hchar]
  -- What is malformed is so in either case of letters.
  all_goals
    simp only [List.map_cons, List.map_nil, Option.map_none] at *
    rw [scan.eq_def]
    simp only [lowerByte_of_not_lt, isContinuation_lowerByte, isSecondOfThree_lowerByte,
      isSecondOfFour_lowerByte, *, if_true, if_false, List.map_reverse, List.map_cons,
      Option.map_none, not_false_eq_true, Bool.false_eq_true]

theorem decodeChars?_map_lowerByte (bytes : List UInt8) :
    decodeChars? (bytes.map lowerByte) = (decodeChars? bytes).map (List.map lowerChar) := by
  have hparts : parts (bytes.map lowerByte) = (parts bytes).map (Option.map lowerChar) :=
    scan_map_lowerByte [] bytes
  have hall : ((parts bytes).map (Option.map lowerChar)).all Option.isSome =
      (parts bytes).all Option.isSome := by
    rw [List.all_map]
    congr 1
    funext p
    cases p <;> rfl
  have hchars : ((parts bytes).map (Option.map lowerChar)).filterMap id =
      ((parts bytes).filterMap id).map lowerChar := by
    rw [List.filterMap_map, List.map_filterMap]
    rfl
  simp only [decodeChars?, hparts, hall, hchars]
  split <;> rfl

end Utf8

namespace Hex

/-- A digit by its code. -/
theorem value?_eq (c : Char) :
    value? c =
      if 48 ≤ c.toNat ∧ c.toNat ≤ 57 then some (c.toNat - 48)
      else if 97 ≤ c.toNat ∧ c.toNat ≤ 102 then some (c.toNat - 87)
      else if 65 ≤ c.toNat ∧ c.toNat ≤ 70 then some (c.toNat - 55)
      else none := by
  simp only [value?, Char.le_def, UInt32.le_iff_toNat_le, Char.toNat_val]
  rfl

theorem value?_lowerChar (c : Char) : value? (lowerChar c) = value? c := by
  rw [value?_eq, value?_eq, Ascii.toNat_lowerChar]
  grind

end Hex

namespace Percent

open Utf8 (lowerByte toNat_lowerByte)

theorem byte?_lowerByte (hi lo : UInt8) : byte? (lowerByte hi) (lowerByte lo) = byte? hi lo := by
  have hchar (b : UInt8) : Char.ofNat (lowerByte b).toNat = lowerChar (Char.ofNat b.toNat) :=
    Utf8.ofNat_lowerByte b
  simp only [byte?, hchar, Hex.value?_lowerChar]

theorem lowerByte_eq_percent_iff (b : UInt8) : lowerByte b = 0x25 ↔ b = 0x25 := by
  rw [← UInt8.toNat_inj, ← UInt8.toNat_inj, toNat_lowerByte]
  have : (0x25 : UInt8).toNat = 37 := rfl
  split <;> omega

/-- Undoing escapes does not see the case of letters. -/
theorem map_lowerByte_decodeOnto {done done' : List UInt8} (bytes : List UInt8)
    (h : done'.map lowerByte = done.map lowerByte) :
    (decodeOnto done' (bytes.map lowerByte)).map lowerByte =
      (decodeOnto done bytes).map lowerByte := by
  fun_induction decodeOnto done bytes generalizing done' with
  | case1 done => simpa [decodeOnto] using h
  | case2 done hi lo rest b hb ih =>
      have hpercent : lowerByte 0x25 = 0x25 := rfl
      simp only [List.map_cons, hpercent, decodeOnto, byte?_lowerByte, hb]
      exact ih (by simp [h])
  | case3 done hi lo rest hb ih =>
      have hpercent : lowerByte 0x25 = 0x25 := rfl
      simp only [List.map_cons, hpercent, decodeOnto, byte?_lowerByte, hb]
      exact ih (by simp [h])
  | case4 done b rest hno ih =>
      -- where no escape begins, none begins in lower case
      have hno' : ∀ hi lo tail, lowerByte b = 0x25 → rest.map lowerByte = hi :: lo :: tail →
          False := by
        intro hi lo tail hpercent hrest
        obtain ⟨hi', rest', rfl, -, hrest⟩ := List.map_eq_cons_iff.1 hrest
        obtain ⟨lo', tail', rfl, -, -⟩ := List.map_eq_cons_iff.1 hrest
        exact hno hi' lo' tail' ((lowerByte_eq_percent_iff b).1 hpercent) rfl
      rw [List.map_cons, decodeOnto]
      · exact ih (by simp [h, Utf8.lowerByte_lowerByte])
      · exact hno'

end Percent

namespace Url

namespace Mapping

theorem char?_lowerChar (c : Char) : char? (lowerChar c) = char? c := by
  by_cases hc : c.toNat < 128
  · rw [char?, char?, if_pos hc, if_pos ((Ascii.toNat_lowerChar_lt_iff c).2 hc),
      Ascii.lowerChar_lowerChar]
  · rw [Ascii.lowerChar_of_not_ascii hc]

theorem text?_map_lowerChar (cs : List Char) : text? (cs.map lowerChar) = text? cs := by
  rw [text?, text?, List.mapM_map]
  congr 2
  funext c
  exact char?_lowerChar c

end Mapping

theorem Domain.ascii?_map_lowerChar (cs : List Char) : ascii? (cs.map lowerChar) = ascii? cs := by
  simp only [ascii?, Mapping.text?_map_lowerChar]

namespace Ipv6

theorem digits?_map_lowerChar (base : Nat) (cs : List Char) :
    Ipv4.digits? base (cs.map lowerChar) = Ipv4.digits? base cs := by
  simp only [Ipv4.digits?, List.foldlM_map, Hex.value?_lowerChar]

theorem group?_map_lowerChar (cs : List Char) : group? (cs.map lowerChar) = group? cs := by
  simp only [group?, List.isEmpty_map, List.length_map, digits?_map_lowerChar]

theorem byte?_map_lowerChar (cs : List Char) : byte? (cs.map lowerChar) = byte? cs := by
  have hzero : (cs.map lowerChar).head? = some '0' ↔ cs.head? = some '0' := by
    cases cs with
    | nil => rfl
    | cons c cs => simp [Ascii.lowerChar_eq_iff (c := c) (d := '0') (by decide)]
  simp only [byte?, List.isEmpty_map, List.length_map, hzero, digits?_map_lowerChar]

theorem dotted?_map_lowerChar (cs : List Char) : dotted? (cs.map lowerChar) = dotted? cs := by
  have hdot (c : Char) : lowerChar c = '.' ↔ c = '.' := Ascii.lowerChar_eq_iff (by decide)
  simp only [dotted?, Split.pieces_map hdot, List.mapM_map, Function.comp_def, byte?_map_lowerChar]

theorem groups?_map_lowerChar (dottedEnd : Bool) (ps : List (List Char)) :
    groups? dottedEnd (ps.map (List.map lowerChar)) = groups? dottedEnd ps := by
  have hdot (p : List Char) : (p.map lowerChar).contains '.' = p.contains '.' := by
    rw [Bool.eq_iff_iff, List.contains_iff_mem, List.contains_iff_mem, List.mem_map]
    simp [Ascii.lowerChar_eq_iff (d := '.') (by decide)]
  induction ps with
  | nil => rfl
  | cons p ps ih =>
      cases ps with
      | nil => simp only [List.map_cons, List.map_nil, groups?, hdot, dotted?_map_lowerChar,
          group?_map_lowerChar]
      | cons q rest =>
          simp only [List.map_cons] at ih
          simp only [List.map_cons, groups?, group?_map_lowerChar, ih]

theorem side?_map_lowerChar (dottedEnd : Bool) (cs : List Char) :
    side? dottedEnd (cs.map lowerChar) = side? dottedEnd cs := by
  have hcolon (c : Char) : lowerChar c = ':' ↔ c = ':' := Ascii.lowerChar_eq_iff (by decide)
  simp only [side?, List.isEmpty_map, Split.pieces_map hcolon, groups?_map_lowerChar]

/-- A double colon is found in either case. -/
theorem sides_map_lowerChar (front cs : List Char) :
    sides (front.map lowerChar) (cs.map lowerChar) =
      (sides front cs).map fun p => (p.1.map lowerChar, p.2.map lowerChar) := by
  have hcolon (c : Char) : lowerChar c = ':' ↔ c = ':' := Ascii.lowerChar_eq_iff (by decide)
  fun_induction sides front cs with
  | case1 front rest =>
      have hlower : lowerChar ':' = ':' := rfl
      simp [hlower, sides]
  | case2 front c rest hno ih =>
      rw [List.map_cons, sides, ← List.map_cons, ih]
      intro tail hhead hrest
      obtain ⟨d, tail', hrest', hd, -⟩ := List.map_eq_cons_iff.1 hrest
      exact hno tail' ((hcolon c).1 hhead) ((hcolon d).1 hd ▸ hrest')
  | case3 front => rfl

theorem ofChars?_map_lowerChar (cs : List Char) : ofChars? (cs.map lowerChar) = ofChars? cs := by
  have hsides := sides_map_lowerChar [] cs
  rw [List.map_nil] at hsides
  rw [ofChars?, ofChars?, hsides]
  cases sides [] cs with
  | none => simp only [Option.map_none, side?_map_lowerChar]
  | some p => simp only [Option.map_some, side?_map_lowerChar]

end Ipv6

namespace Host

theorem bracketed_map_lowerChar (inside : List Char) :
    bracketed (inside.map lowerChar) = bracketed inside := by
  have hlast : (inside.map lowerChar).getLast? = some ']' ↔ inside.getLast? = some ']' := by
    rw [List.getLast?_map, Option.map_eq_some_iff]
    simp [Ascii.lowerChar_eq_iff (d := ']') (by decide)]
  simp only [bracketed, hlast, ← List.map_dropLast, Ipv6.ofChars?_map_lowerChar]

/-- The domain that a text without brackets names. -/
def domain? (cs : List Char) : Option (List Char) :=
  (Utf8.decodeChars? (Percent.decode (Utf8.encodeChars cs))).bind Domain.ascii?

theorem domain?_map_lowerChar (cs : List Char) : domain? (cs.map lowerChar) = domain? cs := by
  have hbytes : (Percent.decode ((Utf8.encodeChars cs).map Utf8.lowerByte)).map Utf8.lowerByte =
      (Percent.decode (Utf8.encodeChars cs)).map Utf8.lowerByte :=
    Percent.map_lowerByte_decodeOnto (Utf8.encodeChars cs) rfl
  have hlower (bytes : List UInt8) :
      (Utf8.decodeChars? (bytes.map Utf8.lowerByte)).bind Domain.ascii? =
        (Utf8.decodeChars? bytes).bind Domain.ascii? := by
    rw [Utf8.decodeChars?_map_lowerByte, Option.bind_map]
    congr 1
    funext ds
    exact Domain.ascii?_map_lowerChar ds
  rw [domain?, domain?, Utf8.encodeChars_map_lowerChar, ← hlower, hbytes, hlower]

theorem special_congr {cs ds : List Char} (hcs : cs.head? ≠ some '[') (hds : ds.head? ≠ some '[')
    (h : domain? cs = domain? ds) : special cs = special ds := by
  unfold domain? at h
  rw [special, special, h]
  · rintro inside rfl
    exact hds rfl
  · rintro inside rfl
    exact hcs rfl

/-- The case of letters means nothing in a host. -/
theorem special_map_lowerChar (cs : List Char) : special (cs.map lowerChar) = special cs := by
  by_cases hhead : cs.head? = some '['
  · obtain ⟨inside, rfl⟩ := List.head?_eq_some_iff.1 hhead
    exact bracketed_map_lowerChar inside
  · have hhead' : (cs.map lowerChar).head? ≠ some '[' := by
      rw [List.head?_map, ne_eq, Option.map_eq_some_iff]
      simpa [Ascii.lowerChar_eq_iff (d := '[') (by decide)] using hhead
    exact special_congr hhead' hhead (domain?_map_lowerChar cs)

end Host

end Url

end AuthGateway
