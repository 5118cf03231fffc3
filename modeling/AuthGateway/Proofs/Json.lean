import AuthGateway.Json.Node
import AuthGateway.Json.Value
import AuthGateway.Proofs.Text

/-!
JSON texts read back. A value that was written is read as the same value, behind
it whatever followed it, as long as that does not go on with a number. The proof
follows the writer: characters with their escapes, then whole strings and numbers,
then values and the lists inside them.
-/
namespace AuthGateway.Json

open Utf8 (encodeChar encodeChars)

variable {acc rest : List UInt8}

/-! Strings. -/

def Content.plain (acc : List UInt8) : Content :=
  ⟨some acc, none⟩

theorem stringBody_short {b e : UInt8} (h : shortEscape? b = some e) :
    stringBody (.plain acc) (0x5C :: b :: rest) = stringBody (.plain (e :: acc)) rest := by
  rw [stringBody.eq_4, h]
  · rfl
  · intro _ _ _ _ _ hb
    rw [hb] at h
    cases h

theorem unit?_control {n : Nat} (h : n < 0x20) :
    unit? 0x30 0x30 (UInt8.ofNat (Hex.lowerDigit (n / 16)).toNat)
      (UInt8.ofNat (Hex.lowerDigit (n % 16)).toNat) = some n := by
  have all : ∀ n < 0x20, unit? 0x30 0x30 (UInt8.ofNat (Hex.lowerDigit (n / 16)).toNat)
      (UInt8.ofNat (Hex.lowerDigit (n % 16)).toNat) = some n := by decide
  exact all n h

/-- Bytes that mean nothing else in a string are its content. -/
theorem stringBody_plain {bytes : List UInt8}
    (h : ∀ b ∈ bytes, 0x20 ≤ b.toNat ∧ b ≠ 0x22 ∧ b ≠ 0x5C) :
    stringBody (.plain acc) (bytes ++ rest) = stringBody (.plain (bytes.reverse ++ acc)) rest := by
  induction bytes generalizing acc with
  | nil => rfl
  | cons b bytes ih =>
      obtain ⟨⟨hlow, hquote, hslash⟩, hbytes⟩ := List.forall_mem_cons.1 h
      have hb : ¬ (b < 0x20 ∨ b = 0x5C) := by
        rw [UInt8.lt_iff_toNat_lt]
        exact fun hor => hor.elim (Nat.not_lt.2 hlow) hslash
      rw [List.cons_append, stringBody.eq_5 _ _ _ hquote (fun _ _ _ _ _ e => absurd e hslash)
        (fun _ _ e => absurd e hslash), if_neg hb]
      refine (ih hbytes).trans ?_
      rw [List.reverse_cons, List.append_assoc, List.singleton_append]

theorem stringBody_encodeChar {c : Char} (hlow : 0x20 ≤ c.toNat) (hquote : c ≠ '"')
    (hslash : c ≠ '\\') :
    stringBody (.plain acc) (encodeChar c ++ rest) =
      stringBody (.plain ((encodeChar c).reverse ++ acc)) rest := by
  refine stringBody_plain fun b hb => ?_
  have hne {d : Char} (hd : c ≠ d) : c.toNat ≠ d.toNat := fun h => hd (Char.toNat_inj.1 h)
  have hquote' := hne hquote
  have hslash' := hne hslash
  have hmem := Utf8.toNat_of_mem_encodeChar hb
  refine ⟨by omega, fun h => ?_, fun h => ?_⟩
  · have : b.toNat = '"'.toNat := congrArg UInt8.toNat h
    have : '"'.toNat < 0x80 := by decide
    omega
  · have : b.toNat = '\\'.toNat := congrArg UInt8.toNat h
    have : '\\'.toNat < 0x80 := by decide
    omega

theorem lowerDigit_ascii {n : Nat} (h : n < 16) : (Hex.lowerDigit n).toNat < 0x80 := by
  have all : ∀ n < 16, (Hex.lowerDigit n).toNat < 0x80 := by decide
  exact all n h

theorem stringBody_control {c : Char} (h : c.toNat < 0x20) :
    stringBody (.plain acc) (encodeChars ['\\', 'u', '0', '0', Hex.lowerDigit (c.toNat / 16),
        Hex.lowerDigit (c.toNat % 16)] ++ rest) =
      stringBody (.plain ((encodeChar c).reverse ++ acc)) rest := by
  have hhigh := Utf8.encodeChar_of_ascii (lowerDigit_ascii (n := c.toNat / 16) (by omega))
  have hlow := Utf8.encodeChar_of_ascii (lowerDigit_ascii (n := c.toNat % 16) (by omega))
  have hpush : (Content.plain acc).pushUnit c.toNat = .plain ((encodeChar c).reverse ++ acc) := by
    have hunit : isHighSurrogate c.toNat = false ∧ isLowSurrogate c.toNat = false := by
      simp only [isHighSurrogate, isLowSurrogate, Bool.and_eq_false_iff, decide_eq_false_iff_not]
      omega
    rw [Content.pushUnit, hunit.1, hunit.2, Char.ofNat_toNat]
    rfl
  simp only [Utf8.encodeChars_cons, Utf8.encodeChars_nil, hhigh, hlow]
  refine (stringBody.eq_3 _ 0x30 0x30 _ _ _).trans ?_
  rw [unit?_control h]
  exact congrArg (stringBody · rest) hpush

/-- One character of a string is read as it was written, escaped or not. -/
theorem stringBody_escapeChar (c : Char) :
    stringBody (.plain acc) (encodeChars (escapeChar c) ++ rest) =
      stringBody (.plain ((encodeChar c).reverse ++ acc)) rest := by
  by_cases hshort : c ∈ ['"', '\\', '\x08', '\x0c', '\n', '\r', '\t']
  · simp only [List.mem_cons, List.not_mem_nil, or_false] at hshort
    rcases hshort with rfl | rfl | rfl | rfl | rfl | rfl | rfl <;> exact stringBody_short rfl
  simp only [List.mem_cons, List.not_mem_nil, or_false, not_or] at hshort
  obtain ⟨hquote, hslash, hb, hf, hn, hr, ht⟩ := hshort
  simp only [escapeChar, hquote, hslash, hb, hf, hn, hr, ht, if_false]
  split
  · next hlow => exact stringBody_control hlow
  · next hlow =>
      rw [Utf8.encodeChars_cons, Utf8.encodeChars_nil, List.append_nil]
      exact stringBody_encodeChar (Nat.not_lt.1 hlow) hquote hslash

theorem stringBody_quoted (cs : List Char) :
    stringBody (.plain acc) (encodeChars (cs.flatMap escapeChar) ++ 0x22 :: rest) =
      some (some (acc.reverse ++ encodeChars cs), rest) := by
  induction cs generalizing acc with
  | nil => simp [Content.settled, Content.plain, stringBody]
  | cons c cs ih =>
      rw [List.flatMap_cons, Utf8.encodeChars_append, List.append_assoc, stringBody_escapeChar, ih]
      simp

/-- A string is read up to its closing quote, as the text that was written. -/
theorem stringText?_quoted (s : String) :
    stringText? (encodeChars (s.toList.flatMap escapeChar) ++ 0x22 :: rest) =
      some (some s, rest) := by
  have hbody : stringBody .empty (encodeChars (s.toList.flatMap escapeChar) ++ 0x22 :: rest) =
      some (some (encodeChars s.toList), rest) := stringBody_quoted s.toList
  rw [stringText?, hbody]
  simp only [Option.map_some, Option.bind_some, Utf8.decode?_encodeChars, String.ofList_toList]

/-! Integers. -/

def EndsNumber (rest : List UInt8) : Prop :=
  ∀ b ∈ rest.head?, isDigitByte b = false ∧ b ≠ 0x2E ∧ b ≠ 0x65 ∧ b ≠ 0x45

theorem fraction?_of_ends (h : EndsNumber rest) : fraction? rest = some (false, rest) := by
  cases rest with
  | nil => rfl
  | cons b rest =>
      have hdot := (h b rfl).2.1
      rw [fraction?.eq_2]
      exact fun _ e => hdot (List.cons.inj e).1

theorem exponent?_of_ends (h : EndsNumber rest) : exponent? rest = some (false, rest) := by
  cases rest with
  | nil => rfl
  | cons b rest =>
      obtain ⟨-, -, hlower, hupper⟩ := h b rfl
      exact if_neg (not_or.2 ⟨hlower, hupper⟩)

def digitBytes (m : Nat) : List UInt8 :=
  (Decimal.natChars m).map fun c => UInt8.ofNat c.toNat

theorem encodeChars_natChars (m : Nat) : encodeChars (Decimal.natChars m) = digitBytes m := by
  refine Utf8.encodeChars_of_ascii fun c hc => ?_
  have := Decimal.toNat_of_mem_natChars hc
  omega

theorem isDigitByte_of_mem {m : Nat} {b : UInt8} (h : b ∈ digitBytes m) : isDigitByte b = true := by
  obtain ⟨c, hc, rfl⟩ := List.mem_map.1 h
  have hdigit := Decimal.toNat_of_mem_natChars hc
  have hb : (UInt8.ofNat c.toNat).toNat = c.toNat := Utf8.toNat_ofNat (by omega)
  refine (Utf8.within_iff 0x30 0x39 _).2 ?_
  rw [hb]
  exact hdigit

theorem digitsValue_digitBytes (m : Nat) : digitsValue (digitBytes m) = m := by
  have hvalue : ∀ (cs : List Char) (n : Nat), (∀ c ∈ cs, c.toNat ≤ 57) →
      (cs.map fun c => UInt8.ofNat c.toNat).foldl (fun n d => 10 * n + (d.toNat - 48)) n =
        Nat.ofDigitChars 10 cs n := by
    intro cs
    induction cs with
    | nil => exact fun _ _ => rfl
    | cons c cs ih =>
        intro n h
        obtain ⟨hc, hcs⟩ := List.forall_mem_cons.1 h
        rw [List.map_cons, List.foldl_cons, ih _ hcs, Nat.ofDigitChars_cons,
          Utf8.toNat_ofNat (by omega)]
        rfl
  rw [digitsValue, digitBytes, hvalue _ _ fun c hc => (Decimal.toNat_of_mem_natChars hc).2]
  exact Nat.ofDigitChars_toDigits (by decide) (by decide)

theorem digitBytes_ne_nil (m : Nat) : digitBytes m ≠ [] := fun h =>
  Nat.toDigits_ne_nil (List.map_eq_nil_iff.1 h)

theorem head?_digitBytes {m : Nat} (h : m ≠ 0) : (digitBytes m).head? ≠ some 0x30 := by
  -- the first digit is that of a tenth of the number, down to a single one
  induction m using Nat.strongRecOn with
  | ind m ih =>
      by_cases hlt : m < 10
      · have all : ∀ k < 10, k ≠ 0 → (digitBytes k).head? ≠ some 0x30 := by decide
        exact all m hlt h
      · have hdigits : Decimal.natChars m = Decimal.natChars (m / 10) ++ [(m % 10).digitChar] := by
          rw [Decimal.natChars, Nat.toDigits_eq_if (by decide), if_neg hlt]
          rfl
        have hhead := ih (m / 10) (by omega) (by omega)
        rw [digitBytes, hdigits, List.map_append, List.head?_append]
        cases hd : digitBytes (m / 10) with
        | nil => exact absurd hd (digitBytes_ne_nil _)
        | cons d ds =>
            rw [hd] at hhead
            rw [digitBytes] at hd
            rw [hd]
            exact hhead

/-- The digits of a number are read up to what does not go on with it. -/
theorem unsigned?_digitBytes (negative : Bool) {m : Nat} (hm : negative = true → m ≠ 0)
    (hr : EndsNumber rest) :
    unsigned? negative (digitBytes m ++ rest) =
      some (some (if negative then -(m : Int) else m), rest) := by
  have hdigits : ∀ b ∈ digitBytes m, isDigitByte b = true := fun _ => isDigitByte_of_mem
  have hstop : rest.takeWhile isDigitByte = [] ∧ rest.dropWhile isDigitByte = rest := by
    cases rest with
    | nil => exact ⟨rfl, rfl⟩
    | cons b rest =>
        have hb := (hr b rfl).1
        rw [List.takeWhile_cons, List.dropWhile_cons, hb]
        exact ⟨rfl, rfl⟩
  have htake : (digitBytes m ++ rest).takeWhile isDigitByte = digitBytes m := by
    rw [List.takeWhile_append_of_pos hdigits, hstop.1, List.append_nil]
  have hdrop : (digitBytes m ++ rest).dropWhile isDigitByte = rest := by
    rw [List.dropWhile_append_of_pos hdigits, hstop.2]
  -- no zero is written in front of other digits, which would not be read
  have hwell : ¬ ((digitBytes m).isEmpty = true ∨
      (digitBytes m).head? = some 0x30 ∧ (digitBytes m).length ≠ 1) := by
    rintro (hempty | ⟨hhead, hlength⟩)
    · exact digitBytes_ne_nil m (List.isEmpty_iff.1 hempty)
    · by_cases hzero : m = 0
      · exact hlength (by rw [hzero]; rfl)
      · exact head?_digitBytes hzero hhead
  rw [unsigned?, htake, hdrop, if_neg hwell, fraction?_of_ends hr]
  simp only [Option.bind_eq_bind, Option.bind_some, exponent?_of_ends hr, digitsValue_digitBytes]
  refine if_neg ?_
  rintro (hfraction | hexponent | ⟨hnegative, hzero⟩)
  · cases hfraction
  · cases hexponent
  · exact hm hnegative hzero

/-! Values. -/

mutual

def Value.node : Value → Node
  | .null => .null
  | .bool b => .bool b
  | .integer n => .number (some n)
  | .real _ => .number none
  | .string s => .string (some s)
  | .array items => .array (itemNodes items)
  | .object fields => .object (fieldNodes fields)

def itemNodes : List Value → List Node
  | [] => []
  | v :: rest => v.node :: itemNodes rest

def fieldNodes : List (String × Value) → List (Option String × Node)
  | [] => []
  | (k, v) :: rest => (some k, v.node) :: fieldNodes rest

end

mutual

/-- There is no real inside, of which digits alone are left. -/
def Value.IsExact : Value → Prop
  | .real _ => False
  | .array items => AllExact items
  | .object fields => FieldsExact fields
  | _ => True

def AllExact : List Value → Prop
  | [] => True
  | v :: rest => v.IsExact ∧ AllExact rest

def FieldsExact : List (String × Value) → Prop
  | [] => True
  | (_, v) :: rest => v.IsExact ∧ FieldsExact rest

end

theorem encodeChars_quote (s : String) :
    encodeChars (quote s) ++ rest =
      0x22 :: (encodeChars (s.toList.flatMap escapeChar) ++ 0x22 :: rest) := by
  simp only [quote, Utf8.encodeChars_cons, Utf8.encodeChars_append, Utf8.encodeChars_nil,
    List.append_nil, List.append_assoc]
  rfl

theorem skipBlanks_cons {b : UInt8} (h : isBlankByte b = false) :
    skipBlanks (b :: rest) = b :: rest :=
  List.dropWhile_cons_of_neg (by rw [h]; exact Bool.false_ne_true)

theorem skipBlanks_comma : skipBlanks (0x2C :: rest) = 0x2C :: rest := rfl

theorem isBlankByte_of_digit {b : UInt8} (h : isDigitByte b = true) : isBlankByte b = false := by
  cases hb : isBlankByte b with
  | false => rfl
  | true =>
      simp only [isBlankByte, Bool.or_eq_true, beq_iff_eq] at hb
      rcases hb with ((rfl | rfl) | rfl) | rfl <;> cases h

theorem value?_digit {b : UInt8} (h : isDigitByte b = true) (n : Nat) :
    value? (n + 1) (b :: rest) =
      (unsigned? false (b :: rest)).map fun (i, behind) => (.number i, behind) := by
  rw [value?.eq_2, skipBlanks_cons (isBlankByte_of_digit h)]
  split
  case h_8 => rfl
  -- no other value starts with a digit
  all_goals
    next heq =>
      rw [(List.cons.inj heq).1] at h
      cases h

/-- An integer is read with its sign. -/
theorem value?_integer (i : Int) (n : Nat) (hr : EndsNumber rest) :
    value? (n + 1) (encodeChars (Decimal.integerChars i) ++ rest) =
      some (.number (some i), rest) := by
  unfold Decimal.integerChars
  split
  · next hi =>
      have hread := unsigned?_digitBytes true (m := i.natAbs) (fun _ => by omega) hr
      have habs : -(i.natAbs : Int) = i := by omega
      have hminus : value? (n + 1) (0x2D :: (digitBytes i.natAbs ++ rest)) =
          (unsigned? true (digitBytes i.natAbs ++ rest)).map
            fun (i, behind) => (.number i, behind) := by
        rfl
      rw [Utf8.encodeChars_cons, encodeChars_natChars]
      refine hminus.trans ?_
      rw [hread, if_pos rfl, habs]
      rfl
  · next hi =>
      have hread := unsigned?_digitBytes false (m := i.natAbs) nofun hr
      have habs : (i.natAbs : Int) = i := by omega
      rw [encodeChars_natChars]
      cases hdigits : digitBytes i.natAbs with
      | nil => exact absurd hdigits (digitBytes_ne_nil _)
      | cons b bytes =>
          have hb : isDigitByte b = true := isDigitByte_of_mem (hdigits ▸ List.mem_cons_self)
          rw [hdigits] at hread
          rw [List.cons_append, value?_digit hb, ← List.cons_append, hread, habs]
          rfl

theorem value?_quote (s : String) (n : Nat) :
    value? (n + 1) (encodeChars (quote s) ++ rest) = some (.string (some s), rest) := by
  have hstring : ∀ bytes, value? (n + 1) (0x22 :: bytes) =
      (stringText? bytes).map fun read => (.string read.1, read.2) := fun _ => rfl
  rw [encodeChars_quote, hstring, stringText?_quoted]
  rfl

theorem fields?_quote (k : String) (n : Nat) :
    fields? (n + 1) (encodeChars (quote k) ++ 0x3A :: rest) =
      (value? n rest).bind fun (v, rest) =>
        match skipBlanks rest with
        | 0x7D :: behind => some ([(some k, v)], behind)
        | 0x2C :: more => (fields? n more).map fun (fs, behind) => ((some k, v) :: fs, behind)
        | _ => none := by
  rw [encodeChars_quote, fields?.eq_2, skipBlanks_cons rfl]
  exact congrArg (Option.bind · _) (stringText?_quoted k)

theorem head_chars {v : Value} (h : v.IsExact) :
    ∃ b bytes, encodeChars v.chars = b :: bytes ∧ isBlankByte b = false ∧ b ≠ 0x5D := by
  -- each kind of value begins with a byte that no space or bracket is
  cases v with
  | null => exact ⟨0x6E, _, rfl, rfl, by decide⟩
  | bool b =>
      cases b with
      | true => exact ⟨0x74, _, rfl, rfl, by decide⟩
      | false => exact ⟨0x66, _, rfl, rfl, by decide⟩
  | integer i =>
      rw [Value.chars, Decimal.integerChars]
      split
      · exact ⟨0x2D, _, rfl, rfl, by decide⟩
      · rw [encodeChars_natChars]
        cases hdigits : digitBytes i.natAbs with
        | nil => exact absurd hdigits (digitBytes_ne_nil _)
        | cons b bytes =>
            have hb : isDigitByte b = true := isDigitByte_of_mem (hdigits ▸ List.mem_cons_self)
            refine ⟨b, bytes, rfl, isBlankByte_of_digit hb, fun e => ?_⟩
            rw [e] at hb
            cases hb
  | real x => exact h.elim
  | string s => exact ⟨0x22, _, rfl, rfl, by decide⟩
  | array items => exact ⟨0x5B, _, rfl, rfl, by decide⟩
  | object fields => exact ⟨0x7B, _, rfl, rfl, by decide⟩

theorem value?_array {b : UInt8} (hblank : isBlankByte b = false) (hclose : b ≠ 0x5D) (n : Nat) :
    value? (n + 1) (0x5B :: b :: rest) =
      (items? n (b :: rest)).map fun (items, behind) => (.array items, behind) := by
  rw [value?.eq_2, skipBlanks_cons rfl]
  simp only [skipBlanks_cons hblank]
  split
  · next heq => exact absurd (List.cons.inj heq).1 hclose
  · rfl

theorem endsNumber_cons {b : UInt8}
    (h : isDigitByte b = false ∧ b ≠ 0x2E ∧ b ≠ 0x65 ∧ b ≠ 0x45) : EndsNumber (b :: rest) := by
  intro c hc
  cases hc
  exact h

theorem head_itemChars {v : Value} (h : v.IsExact) (items : List Value) :
    ∃ b bytes, encodeChars (itemChars (v :: items)) = b :: bytes ∧ isBlankByte b = false ∧
      b ≠ 0x5D := by
  obtain ⟨b, bytes, hb, hblank, hclose⟩ := head_chars h
  cases items with
  | nil => exact ⟨b, bytes, hb, hblank, hclose⟩
  | cons w items =>
      refine ⟨b, bytes ++ encodeChars (',' :: itemChars (w :: items)), ?_, hblank, hclose⟩
      rw [itemChars, Utf8.encodeChars_append, hb]
      rfl

theorem head_fieldChars (k : String) (v : Value) (fields : List (String × Value)) :
    ∃ bytes, encodeChars (fieldChars ((k, v) :: fields)) = 0x22 :: bytes := by
  cases fields with
  | nil => exact ⟨_, rfl⟩
  | cons f fields => exact ⟨_, rfl⟩

theorem chars_ne_nil {v : Value} (h : v.IsExact) : v.chars ≠ [] := by
  intro hnil
  obtain ⟨b, bytes, hb, -⟩ := head_chars h
  rw [hnil] at hb
  cases hb

mutual

/-- A written value is read as it was, and what stands behind it is left. -/
theorem value?_chars (v : Value) (hv : v.IsExact) (n : Nat) (hn : v.chars.length ≤ n)
    (rest : List UInt8) (hr : EndsNumber rest) :
    value? n (encodeChars v.chars ++ rest) = some (v.node, rest) := by
  -- the induction is on the value, together with its items and fields, and every level of
  -- the text leaves enough steps for the next one
  match v, n with
  | v, 0 => exact absurd (List.eq_nil_of_length_eq_zero (Nat.le_zero.1 hn)) (chars_ne_nil hv)
  | .null, n + 1 => rfl
  | .bool true, n + 1 => rfl
  | .bool false, n + 1 => rfl
  | .integer i, n + 1 => exact value?_integer i n hr
  | .real x, _ => exact hv.elim
  | .string s, n + 1 => exact value?_quote s n
  | .array [], n + 1 => rfl
  | .object [], n + 1 => rfl
  | .array (v :: items), n + 1 =>
      simp only [Value.chars, List.length_cons, List.length_append, List.length_nil] at hn
      have hitems := items?_chars v items hv n (by omega) rest
      obtain ⟨b, bytes, hhead, hblank, hclose⟩ := head_itemChars hv.1 items
      have hbytes : encodeChars (Value.array (v :: items)).chars ++ rest =
          0x5B :: b :: (bytes ++ 0x5D :: rest) := by
        rw [Value.chars, Utf8.encodeChars_cons, Utf8.encodeChars_append, hhead, List.append_assoc,
          List.append_assoc]
        rfl
      rw [hhead] at hitems
      rw [hbytes, value?_array hblank hclose, ← List.cons_append, hitems]
      rfl
  | .object ((k, v) :: fields), n + 1 =>
      simp only [Value.chars, List.length_cons, List.length_append, List.length_nil] at hn
      have hfields := fields?_chars k v fields hv n (by omega) rest
      obtain ⟨bytes, hhead⟩ := head_fieldChars k v fields
      have hbytes : encodeChars (Value.object ((k, v) :: fields)).chars ++ rest =
          0x7B :: 0x22 :: (bytes ++ 0x7D :: rest) := by
        rw [Value.chars, Utf8.encodeChars_cons, Utf8.encodeChars_append, hhead, List.append_assoc,
          List.append_assoc]
        rfl
      have hobject : value? (n + 1) (0x7B :: 0x22 :: (bytes ++ 0x7D :: rest)) =
          (fields? n (0x22 :: bytes ++ 0x7D :: rest)).map
            fun (fields, behind) => (.object fields, behind) := rfl
      rw [hhead] at hfields
      rw [hbytes, hobject, hfields]
      rfl

/-- The items of a list are read up to its bracket. -/
theorem items?_chars (v : Value) (items : List Value) (hi : AllExact (v :: items)) (n : Nat)
    (hn : (itemChars (v :: items)).length < n) (rest : List UInt8) :
    items? n (encodeChars (itemChars (v :: items)) ++ 0x5D :: rest) =
      some (itemNodes (v :: items), rest) := by
  match items, n with
  | _, 0 => exact absurd hn (Nat.not_lt_zero _)
  | [], n + 1 =>
      have hv := value?_chars v hi.1 n (Nat.lt_succ_iff.1 hn) (0x5D :: rest)
        (endsNumber_cons (by decide))
      rw [items?.eq_2, itemChars, hv]
      rfl
  | w :: items, n + 1 =>
      simp only [itemChars, List.length_append, List.length_cons] at hn
      have hv := value?_chars v hi.1 n (by omega)
        (0x2C :: (encodeChars (itemChars (w :: items)) ++ 0x5D :: rest))
        (endsNumber_cons (by decide))
      have hrest := items?_chars w items hi.2 n (by omega) rest
      have hbytes : encodeChars (itemChars (v :: w :: items)) ++ 0x5D :: rest =
          encodeChars v.chars ++
            0x2C :: (encodeChars (itemChars (w :: items)) ++ 0x5D :: rest) := by
        rw [itemChars, Utf8.encodeChars_append, Utf8.encodeChars_cons, List.append_assoc,
          List.append_assoc]
        rfl
      rw [hbytes, items?.eq_2, hv]
      simp only [Option.bind_eq_bind, Option.bind_some, skipBlanks_comma, hrest]
      rfl

/-- The fields of an object are read up to its brace. -/
theorem fields?_chars (k : String) (v : Value) (fields : List (String × Value))
    (hf : FieldsExact ((k, v) :: fields)) (n : Nat)
    (hn : (fieldChars ((k, v) :: fields)).length < n) (rest : List UInt8) :
    fields? n (encodeChars (fieldChars ((k, v) :: fields)) ++ 0x7D :: rest) =
      some (fieldNodes ((k, v) :: fields), rest) := by
  match fields, n with
  | _, 0 => exact absurd hn (Nat.not_lt_zero _)
  | [], n + 1 =>
      simp only [fieldChars, List.length_append, List.length_cons] at hn
      have hv := value?_chars v hf.1 n (by omega) (0x7D :: rest) (endsNumber_cons (by decide))
      have hbytes : encodeChars (fieldChars [(k, v)]) ++ 0x7D :: rest =
          encodeChars (quote k) ++ 0x3A :: (encodeChars v.chars ++ 0x7D :: rest) := by
        rw [fieldChars, Utf8.encodeChars_append, Utf8.encodeChars_cons, List.append_assoc]
        rfl
      rw [hbytes, fields?_quote, hv]
      rfl
  | (j, w) :: fields, n + 1 =>
      simp only [fieldChars, List.length_append, List.length_cons] at hn
      have hv := value?_chars v hf.1 n (by omega)
        (0x2C :: (encodeChars (fieldChars ((j, w) :: fields)) ++ 0x7D :: rest))
        (endsNumber_cons (by decide))
      have hrest := fields?_chars j w fields hf.2 n (by omega) rest
      have hbytes : encodeChars (fieldChars ((k, v) :: (j, w) :: fields)) ++ 0x7D :: rest =
          encodeChars (quote k) ++ 0x3A :: (encodeChars v.chars ++
            0x2C :: (encodeChars (fieldChars ((j, w) :: fields)) ++ 0x7D :: rest)) := by
        simp only [fieldChars, Utf8.encodeChars_append, Utf8.encodeChars_cons, List.append_assoc]
        rfl
      rw [hbytes, fields?_quote, hv]
      simp only [Option.bind_some, skipBlanks_comma, hrest]
      rfl

end

/-- A written text is read as the value it was written for. -/
theorem parse?_render {v : Value} (h : v.IsExact) :
    parse? (Utf8.encode v.render) = some v.node := by
  have hread := value?_chars v h ((encodeChars v.chars).length + 1)
    (Nat.le_succ_of_le (Utf8.length_le_length_encodeChars _)) [] nofun
  rw [List.append_nil] at hread
  rw [Value.render, Utf8.encode, String.toList_ofList, parse?, hread]
  rfl

end AuthGateway.Json
