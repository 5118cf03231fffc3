import AuthGateway.Proofs.DecodingLevels
import AuthGateway.Proofs.HostCase
import AuthGateway.Proofs.Respelling
import AuthGateway.Url.Parse

/-!
The canonical form of a path by a loop over byte offsets. The loop looks ahead of its offset
for the two digits of an escape, and takes what is no escape as the character that starts at
the offset; a text can be cut only where a character starts, and a cut elsewhere would be the
end of the program. It is none, since the offset always stands at the start of a character.
So the loop gives what the recursion over characters gives, and that is an error in no case
but that of an escaped separator.
-/
namespace AuthGateway

namespace Utf8

/-- A character starts at an offset, or the text ends there. -/
def isBoundary (bytes : List UInt8) (i : Nat) : Bool :=
  match bytes[i]? with
  | some b => !isContinuation b
  | none => i == bytes.length

/-- The bytes between two offsets, unless one of them is inside a character or behind the end. -/
def slice? (bytes : List UInt8) (i j : Nat) : Option (List UInt8) :=
  if i ≤ j ∧ isBoundary bytes i = true ∧ isBoundary bytes j = true then
    some ((bytes.drop i).take (j - i))
  else none

theorem getElem?_offset (cs ds : List Char) :
    (encodeChars (cs ++ ds))[(encodeChars cs).length]? = (encodeChars ds).head? := by
  rw [encodeChars_append, List.getElem?_append_right (Nat.le_refl _), Nat.sub_self,
    List.head?_eq_getElem?]

theorem drop_offset (cs ds : List Char) :
    (encodeChars (cs ++ ds)).drop (encodeChars cs).length = encodeChars ds := by
  rw [encodeChars_append, List.drop_left]

theorem not_isContinuation_of_head {c : Char} {b : UInt8} (h : (encodeChar c).head? = some b) :
    isContinuation b = false := by
  have hvalid := toNat_valid c
  rw [← Bool.not_eq_true, isContinuation_iff]
  unfold encodeChar at h
  dsimp only at h
  generalize c.toNat = n at hvalid h
  -- the lead byte is below the bytes that continue a character, or above them
  repeat' split at h
  all_goals
    cases h
    rw [toNat_ofNat (by omega)]
    omega

theorem isBoundary_offset (cs ds : List Char) :
    isBoundary (encodeChars (cs ++ ds)) (encodeChars cs).length = true := by
  rw [isBoundary, getElem?_offset]
  cases ds with
  | nil => simp [encodeChars_nil]
  | cons d ds =>
      obtain ⟨b, bs, hb⟩ := List.exists_cons_of_ne_nil (encodeChar_ne_nil d)
      have hlead : isContinuation b = false :=
        not_isContinuation_of_head (by rw [hb, List.head?_cons])
      rw [encodeChars_cons, hb]
      simp [hlead]

/-- Between two characters a text can be cut. -/
theorem slice?_offset (cs ds es : List Char) :
    slice? (encodeChars (cs ++ (ds ++ es))) (encodeChars cs).length
      ((encodeChars cs).length + (encodeChars ds).length) = some (encodeChars ds) := by
  have hend : (encodeChars cs).length + (encodeChars ds).length =
      (encodeChars (cs ++ ds)).length := by
    rw [encodeChars_append, List.length_append]
  have hstart : isBoundary (encodeChars (cs ++ (ds ++ es))) (encodeChars cs).length = true :=
    isBoundary_offset cs (ds ++ es)
  have hstop := isBoundary_offset (cs ++ ds) es
  rw [List.append_assoc, ← hend] at hstop
  rw [slice?, if_pos ⟨Nat.le_add_right _ _, hstart, hstop⟩, drop_offset, Nat.add_sub_cancel_left,
    encodeChars_append, List.take_left]

theorem slice?_eq_some {bytes part : List UInt8} {i j : Nat} (h : slice? bytes i j = some part) :
    part <+: bytes.drop i := by
  rw [slice?] at h
  split at h
  · cases h
    exact List.take_prefix _ _
  · cases h

end Utf8

namespace Hex

theorem digit_of_value? {c : Char} {v : Nat} (h : value? c = some v) :
    v < 16 ∧ (c = lowerDigit v ∨ c = upperDigit v) := by
  have hchar {n : Nat} (hn : c.toNat = n) : c = Char.ofNat n := by rw [← hn, Char.ofNat_toNat]
  rw [value?_eq] at h
  split at h
  · obtain rfl := Option.some.inj h
    have hlow : c.toNat - 48 < 10 := by omega
    rw [lowerDigit, if_pos hlow]
    exact ⟨by omega, .inl (hchar (by omega))⟩
  split at h
  · obtain rfl := Option.some.inj h
    have hhigh : ¬ c.toNat - 87 < 10 := by omega
    rw [lowerDigit, if_neg hhigh]
    exact ⟨by omega, .inl (hchar (by omega))⟩
  split at h
  · obtain rfl := Option.some.inj h
    have hhigh : ¬ c.toNat - 55 < 10 := by omega
    rw [upperDigit, if_neg hhigh]
    exact ⟨by omega, .inr (hchar (by omega))⟩
  · cases h

end Hex

namespace Route

open Utf8 (encodeChars encodeChars_append encodeChars_cons encodeChars_of_ascii)

/-! The loop. -/

/-- What ends the loop early: an error, or a cut inside a character. -/
inductive Halt where
  | refused (e : PathError)
  | cutInside

structure Round where
  kept : Char
  width : Nat
  advances : 0 < width

def Round.ofChar (c : Char) : Round where
  kept := c
  width := (Utf8.encodeChar c).length
  advances := List.length_pos_iff.2 (Utf8.encodeChar_ne_nil c)

def escapeAt? (bytes : List UInt8) (i : Nat) : Option Char :=
  if bytes[i]? = some 0x25 then
    match Utf8.slice? bytes (i + 1) (i + 3) with
    | some [hi, lo] => escaped? (Char.ofNat hi.toNat) (Char.ofNat lo.toNat)
    | _ => none
  else none

def charAt (bytes : List UInt8) (i : Nat) : Except Halt Round :=
  match (Utf8.slice? bytes i bytes.length).bind Utf8.decodeChars? with
  | none => .error .cutInside
  | some [] => .error (.refused .malformed)
  | some (c :: _) => .ok (.ofChar c)

def roundAt (bytes : List UInt8) (i : Nat) : Except Halt Round :=
  match escapeAt? bytes i with
  | some c =>
    if isSeparator c then .error (.refused .encodedSeparator)
    else if isUnreserved c then .ok ⟨c, 3, by decide⟩
    else charAt bytes i
  | none => charAt bytes i

/-- The rounds from an offset on, behind what earlier rounds have kept. -/
def scanFrom (bytes : List UInt8) (i : Nat) (done : List Char) : Except Halt (List Char) :=
  if i < bytes.length then
    match roundAt bytes i with
    | .error e => .error e
    | .ok r => scanFrom bytes (i + r.width) (done ++ [r.kept])
  else .ok done
termination_by bytes.length - i
decreasing_by
  have := r.advances
  omega

def scanBase : String :=
  "http://tollgate.invalid/"

/-- The path of a URL after it was replaced by what the loop gives. -/
def scanPath (p : String) : Except Halt String :=
  match scanFrom (Utf8.encode p) 0 [] with
  | .error e => .error e
  | .ok cs =>
    match Url.parse scanBase with
    | .error _ => .error (.refused .malformed)
    | .ok u =>
      let segments := Url.Segments.ofChars u.scheme.isSpecial (Url.Escape.significant cs)
      .ok (String.ofList { u with path := .segments segments }.pathChars)

/-! One round. -/

variable {front back cs ds : List Char} {c hi lo : Char}

theorem ascii_of_escaped? (h : escaped? hi lo = some c) : hi.toNat < 0x80 ∧ lo.toNat < 0x80 := by
  obtain ⟨hhi, hlo⟩ := isUnreserved_of_escaped? h
  exact ⟨(kept_of_isUnreserved hhi).1, (kept_of_isUnreserved hlo).1⟩

/-- A text that begins with an escape begins with no other. -/
theorem escaped?_congr {hi' lo' : Char} {rest rest' : List Char}
    (h : '%' :: hi :: lo :: rest = '%' :: hi' :: lo' :: rest') :
    escaped? hi lo = escaped? hi' lo' := by
  simp only [List.cons.injEq, true_and] at h
  rw [h.1, h.2.1]

theorem encodeChars_escape (h : escaped? hi lo = some c) :
    encodeChars [hi, lo] = [UInt8.ofNat hi.toNat, UInt8.ofNat lo.toNat] := by
  obtain ⟨hhi, hlo⟩ := ascii_of_escaped? h
  exact encodeChars_of_ascii (by simp [hhi, hlo])

theorem encodeChars_escape_of_bytes {hi lo : UInt8}
    (h : escaped? (Char.ofNat hi.toNat) (Char.ofNat lo.toNat) = some c) :
    encodeChars ['%', Char.ofNat hi.toNat, Char.ofNat lo.toNat] = [0x25, hi, lo] := by
  rw [encodeChars_cons, encodeChars_escape h, Utf8.toNat_ofNat_of_byte hi.toNat_lt,
    Utf8.toNat_ofNat_of_byte lo.toNat_lt, UInt8.ofNat_toNat, UInt8.ofNat_toNat]
  rfl

/-- What looks like an escape in bytes is one in characters. -/
theorem exists_escape
    (h : escapeAt? (encodeChars (front ++ back)) (encodeChars front).length = some c) :
    ∃ hi lo rest, back = '%' :: hi :: lo :: rest ∧ escaped? hi lo = some c := by
  rw [escapeAt?, Utf8.getElem?_offset] at h
  split at h
  · next hpercent =>
      split at h
      · next hi lo hslice =>
          obtain ⟨bytes, hbytes⟩ := List.head?_eq_some_iff.1 hpercent
          have hbehind : [hi, lo] <+: bytes := by
            have hprefix := Utf8.slice?_eq_some hslice
            rwa [← List.drop_drop, Utf8.drop_offset, hbytes, List.drop_one,
              List.tail_cons] at hprefix
          have hprefix : encodeChars ['%', Char.ofNat hi.toNat, Char.ofNat lo.toNat] <+:
              encodeChars back := by
            rw [encodeChars_escape_of_bytes h, hbytes]
            exact List.cons_prefix_cons.2 ⟨rfl, hbehind⟩
          obtain ⟨hhi, hlo⟩ := ascii_of_escaped? h
          obtain ⟨rest, hrest⟩ := Utf8.prefix_of_prefix_encodeChars (by simp [hhi, hlo]) hprefix
          exact ⟨_, _, rest, hrest.symm, h⟩
      · cases h
  · cases h

/-- Where an escape begins in the text, one is found at its offset in the bytes. -/
theorem escapeAt?_of_escape {rest : List Char} (he : escaped? hi lo = some c) :
    escapeAt? (encodeChars (front ++ '%' :: hi :: lo :: rest)) (encodeChars front).length =
      some c := by
  obtain ⟨hhi, hlo⟩ := ascii_of_escaped? he
  have hpercent : (encodeChars ('%' :: hi :: lo :: rest)).head? = some 0x25 := by
    rw [encodeChars_cons]
    rfl
  have hfront : (encodeChars (front ++ ['%'])).length = (encodeChars front).length + 1 := by
    rw [encodeChars_append, List.length_append]
    rfl
  have hslice : Utf8.slice? (encodeChars (front ++ '%' :: hi :: lo :: rest))
      ((encodeChars front).length + 1) ((encodeChars front).length + 3) =
        some [UInt8.ofNat hi.toNat, UInt8.ofNat lo.toNat] := by
    have hcut := Utf8.slice?_offset (front ++ ['%']) [hi, lo] rest
    rwa [List.append_assoc, hfront, encodeChars_escape he] at hcut
  rw [escapeAt?, Utf8.getElem?_offset, if_pos hpercent, hslice]
  simp only [Utf8.toNat_ofNat (show hi.toNat < 256 by omega),
    Utf8.toNat_ofNat (show lo.toNat < 256 by omega), Char.ofNat_toNat, he]

/-- The offset is at the start of a character, so that there is one to take. -/
theorem charAt_offset (front : List Char) (c : Char) (back : List Char) :
    charAt (encodeChars (front ++ c :: back)) (encodeChars front).length = .ok (.ofChar c) := by
  have hslice := Utf8.slice?_offset front (c :: back) []
  rw [List.append_nil, ← List.length_append, ← encodeChars_append] at hslice
  rw [charAt, hslice, Option.bind_some, Utf8.decodeChars?_encodeChars]

theorem roundAt_of_escape (he : escaped? hi lo = some c) (front rest : List Char) :
    roundAt (encodeChars (front ++ '%' :: hi :: lo :: rest)) (encodeChars front).length =
      if isSeparator c then .error (.refused .encodedSeparator)
      else if isUnreserved c then .ok ⟨c, 3, by decide⟩
      else .ok (.ofChar '%') := by
  rw [roundAt, escapeAt?_of_escape he]
  dsimp only
  rw [charAt_offset]

theorem roundAt_of_no_escape
    (h : ∀ hi lo rest, c :: back = '%' :: hi :: lo :: rest → escaped? hi lo = none)
    (front : List Char) :
    roundAt (encodeChars (front ++ c :: back)) (encodeChars front).length = .ok (.ofChar c) := by
  have hnone : escapeAt? (encodeChars (front ++ c :: back)) (encodeChars front).length = none := by
    rw [Option.eq_none_iff_forall_ne_some]
    intro d hd
    obtain ⟨hi, lo, rest, heq, he⟩ := exists_escape hd
    rw [h hi lo rest heq] at he
    cases he
  rw [roundAt, hnone]
  exact charAt_offset front c back

/-! All rounds. -/

theorem scanFrom_of_round (taken : List Char) {r : Round}
    (hround : roundAt (encodeChars (front ++ (taken ++ back))) (encodeChars front).length = .ok r)
    (hwidth : r.width = (encodeChars taken).length) (done : List Char) :
    scanFrom (encodeChars (front ++ (taken ++ back))) (encodeChars front).length done =
      scanFrom (encodeChars (front ++ taken ++ back)) (encodeChars (front ++ taken)).length
        (done ++ [r.kept]) := by
  have hadvances := r.advances
  have hlt : (encodeChars front).length < (encodeChars (front ++ (taken ++ back))).length := by
    simp only [encodeChars_append, List.length_append]
    omega
  rw [scanFrom, if_pos hlt, hround, List.append_assoc, encodeChars_append front taken,
    List.length_append, ← hwidth]

/-- How the loop ends on a text of which the recursion over characters makes `undone`. -/
def outcome (done : List Char) (undone : Option (List Char)) : Except Halt (List Char) :=
  match undone with
  | none => .error (.refused .encodedSeparator)
  | some cs => .ok (done ++ cs)

theorem outcome_snoc (done : List Char) (c : Char) (undone : Option (List Char)) :
    outcome (done ++ [c]) undone = outcome done (undone.map (c :: ·)) := by
  cases undone with
  | none => rfl
  | some cs => simp [outcome]

/-- From the start of a character on, the loop undoes the escapes of what is left. -/
theorem scanFrom_offset (front back done : List Char) :
    scanFrom (encodeChars (front ++ back)) (encodeChars front).length done =
      outcome done (unescape? back) := by
  -- by the cases of the recursion over characters: a round takes what one of them takes
  fun_induction unescape? back generalizing front done with
  | case1 =>
      rw [List.append_nil, scanFrom, if_neg (Nat.lt_irrefl _), outcome, List.append_nil]
  | case2 hi lo rest c he hseparator =>
      have hround := roundAt_of_escape he front rest
      rw [if_pos hseparator] at hround
      have hlt : (encodeChars front).length <
          (encodeChars (front ++ '%' :: hi :: lo :: rest)).length := by
        rw [encodeChars_append, encodeChars_cons, List.length_append, List.length_append]
        exact Nat.lt_add_of_pos_right (Nat.add_pos_left (by decide) _)
      rw [scanFrom, if_pos hlt, hround]
      rfl
  | case3 hi lo rest c he hseparator hunreserved ih =>
      have hround := roundAt_of_escape he front rest
      rw [if_neg hseparator, if_pos hunreserved] at hround
      have hwidth : 3 = (encodeChars ['%', hi, lo]).length := by
        rw [encodeChars_cons, encodeChars_escape he]
        rfl
      rw [← outcome_snoc, ← ih]
      exact scanFrom_of_round ['%', hi, lo] hround hwidth done
  | case4 hi lo rest c he hseparator hunreserved ih =>
      have hround := roundAt_of_escape he front rest
      rw [if_neg hseparator, if_neg hunreserved] at hround
      rw [← outcome_snoc, ← ih]
      exact scanFrom_of_round ['%'] hround rfl done
  | case5 hi lo rest he ih =>
      have hnone : ∀ hi' lo' rest', '%' :: hi :: lo :: rest = '%' :: hi' :: lo' :: rest' →
          escaped? hi' lo' = none := fun hi' lo' rest' heq => (escaped?_congr heq).symm.trans he
      rw [← outcome_snoc, ← ih]
      exact scanFrom_of_round ['%'] (roundAt_of_no_escape hnone front) rfl done
  | case6 c rest hno ih =>
      have hnone : ∀ hi lo rest', c :: rest = '%' :: hi :: lo :: rest' →
          escaped? hi lo = none := fun hi lo rest' heq =>
        (hno hi lo rest' (List.cons.inj heq).1 (List.cons.inj heq).2).elim
      have hwidth : (Round.ofChar c).width = (encodeChars [c]).length := by
        rw [encodeChars_cons, Utf8.encodeChars_nil, List.append_nil]
        rfl
      rw [← outcome_snoc, ← ih]
      exact scanFrom_of_round [c] (roundAt_of_no_escape hnone front) hwidth done

/-! The escapes of separators. -/

def separatorEscapes : List String :=
  ["%2F", "%2f", "%5C", "%5c"]

/-- A separator is escaped somewhere in a text. -/
def EscapesSeparator (cs : List Char) : Prop :=
  ∃ e ∈ separatorEscapes, e.toList <:+: cs

theorem digits_of_isSeparator (he : escaped? hi lo = some c) (hc : isSeparator c = true) :
    hi = '2' ∧ (lo = 'F' ∨ lo = 'f') ∨ hi = '5' ∧ (lo = 'C' ∨ lo = 'c') := by
  simp only [escaped?, Option.bind_eq_bind, Option.bind_eq_some_iff, Option.pure_def,
    Option.some.injEq] at he
  obtain ⟨h, hh, l, hl, rfl⟩ := he
  obtain ⟨hlow, hhi⟩ := Hex.digit_of_value? hh
  obtain ⟨hlow', hlo⟩ := Hex.digit_of_value? hl
  have hcode : 16 * h + l = 0x2F ∨ 16 * h + l = 0x5C := by
    have hchar := Utf8.toNat_ofNat_of_byte (n := 16 * h + l) (by omega)
    simp only [isSeparator, Bool.or_eq_true, beq_iff_eq] at hc
    rw [← hchar]
    exact hc.imp (congrArg Char.toNat) (congrArg Char.toNat)
  cases hcode with
  | inl hslash =>
      obtain ⟨rfl, rfl⟩ : h = 2 ∧ l = 15 := by omega
      exact .inl ⟨hhi.elim id id, hlo.symm⟩
  | inr hbackslash =>
      obtain ⟨rfl, rfl⟩ : h = 5 ∧ l = 12 := by omega
      exact .inr ⟨hhi.elim id id, hlo.symm⟩

theorem mem_separatorEscapes_iff {e : String} :
    e ∈ separatorEscapes ↔
      ∃ hi lo c, e.toList = ['%', hi, lo] ∧ escaped? hi lo = some c ∧ isSeparator c = true := by
  constructor
  · intro h
    simp only [separatorEscapes, List.mem_cons, List.not_mem_nil, or_false] at h
    rcases h with rfl | rfl | rfl | rfl
    · exact ⟨'2', 'F', '/', rfl, rfl, rfl⟩
    · exact ⟨'2', 'f', '/', rfl, rfl, rfl⟩
    · exact ⟨'5', 'C', '\\', rfl, rfl, rfl⟩
    · exact ⟨'5', 'c', '\\', rfl, rfl, rfl⟩
  · rintro ⟨hi, lo, c, htext, he, hc⟩
    obtain rfl : e = String.ofList ['%', hi, lo] := by rw [← htext, String.ofList_toList]
    rcases digits_of_isSeparator he hc with ⟨rfl, rfl | rfl⟩ | ⟨rfl, rfl | rfl⟩ <;> decide

theorem escapesSeparator_of_separator (he : escaped? hi lo = some c) (hc : isSeparator c = true)
    (rest : List Char) : EscapesSeparator ('%' :: hi :: lo :: rest) := by
  refine ⟨String.ofList ['%', hi, lo], ?_, ?_⟩
  · exact mem_separatorEscapes_iff.2 ⟨hi, lo, c, String.toList_ofList, he, hc⟩
  · rw [String.toList_ofList]
    exact (List.prefix_append ['%', hi, lo] rest).isInfix

/-- A character at which no separator is escaped may be left out of account. -/
theorem escapesSeparator_cons (h : ∀ hi lo rest d, c :: cs = '%' :: hi :: lo :: rest →
    escaped? hi lo = some d → isSeparator d = false) :
    EscapesSeparator (c :: cs) ↔ EscapesSeparator cs := by
  constructor
  · rintro ⟨e, hmem, hinfix⟩
    refine ⟨e, hmem, ?_⟩
    cases List.infix_cons_iff.1 hinfix with
    | inl hstart =>
        obtain ⟨hi, lo, d, htext, he, hd⟩ := mem_separatorEscapes_iff.1 hmem
        obtain ⟨rest, hrest⟩ := hstart
        rw [htext] at hrest
        rw [h hi lo rest d hrest.symm he] at hd
        cases hd
    | inr htail => exact htail
  · rintro ⟨e, hmem, htail⟩
    exact ⟨e, hmem, List.infix_cons htail⟩

theorem escapesSeparator_of_plain (hc : c ≠ '%') :
    EscapesSeparator (c :: cs) ↔ EscapesSeparator cs :=
  escapesSeparator_cons fun _ _ _ _ heq => absurd (List.cons.inj heq).1 hc

theorem escapesSeparator_of_escape (he : escaped? hi lo = some c) (hc : isSeparator c = false) :
    EscapesSeparator ('%' :: hi :: lo :: cs) ↔ EscapesSeparator (hi :: lo :: cs) := by
  refine escapesSeparator_cons fun hi' lo' rest d heq hd => ?_
  rw [← escaped?_congr heq, he] at hd
  rwa [← Option.some.inj hd]

/-- Undoing escapes ends early only where a separator is escaped: what a round takes hides the
start of no other escape. -/
theorem unescape?_eq_none_iff : unescape? cs = none ↔ EscapesSeparator cs := by
  fun_induction unescape? cs with
  | case1 => simp [EscapesSeparator, separatorEscapes]
  | case2 hi lo rest c he hseparator =>
      exact iff_of_true rfl (escapesSeparator_of_separator he hseparator rest)
  | case3 hi lo rest c he hseparator _ ih =>
      obtain ⟨hhi, hlo⟩ := ne_of_escaped? he (d := '%') (by decide)
      rw [Option.map_eq_none_iff, ih, escapesSeparator_of_escape he (by simpa using hseparator),
        escapesSeparator_of_plain hhi, escapesSeparator_of_plain hlo]
  | case4 hi lo rest c he hseparator _ ih =>
      rw [Option.map_eq_none_iff, ih, escapesSeparator_of_escape he (by simpa using hseparator)]
  | case5 hi lo rest he ih =>
      refine Option.map_eq_none_iff.trans (ih.trans (escapesSeparator_cons ?_).symm)
      intro hi' lo' rest' d heq hd
      rw [← escaped?_congr heq, he] at hd
      cases hd
  | case6 c rest hno ih =>
      refine Option.map_eq_none_iff.trans (ih.trans (escapesSeparator_cons ?_).symm)
      intro hi lo rest' d heq hd
      exact (hno hi lo rest' (List.cons.inj heq).1 (List.cons.inj heq).2).elim

/-! The path as a whole. -/

theorem normalizePath_eq (p : String) :
    normalizePath p = match unescape? p.toList with
      | none => .error .encodedSeparator
      | some cs => .ok (String.ofList (canonicalChars cs)) := by
  unfold normalizePath
  cases unescape? p.toList with
  | none => rfl
  | some cs => exact if_pos (head_canonicalChars cs)

/-- The base of the loop is a URL with a host, where a backslash is a slash. -/
theorem exists_scanBase : ∃ u, Url.parse scanBase = .ok u ∧ u.scheme.isSpecial = true ∧
    u.authority.isSome = true := by
  have hparsed : (Url.parse scanBase).toOption.any
      (fun u => u.scheme.isSpecial && u.authority.isSome) = true := by
    decide +kernel
  cases hu : Url.parse scanBase with
  | error e =>
      rw [hu] at hparsed
      cases hparsed
  | ok u =>
      rw [hu] at hparsed
      exact ⟨u, rfl, Bool.and_eq_true_iff.1 hparsed⟩

/-- The loop over offsets computes the canonical form. -/
theorem scanPath_eq (p : String) : scanPath p = (normalizePath p).mapError .refused := by
  have hscan : scanFrom (Utf8.encode p) 0 [] = outcome [] (unescape? p.toList) :=
    scanFrom_offset [] p.toList []
  obtain ⟨u, hu, hspecial, hauthority⟩ := exists_scanBase
  rw [scanPath, hscan, normalizePath_eq]
  cases unescape? p.toList with
  | none => rfl
  | some cs =>
      obtain ⟨a, ha⟩ := Option.isSome_iff_exists.1 hauthority
      have hpath (segments : List (List Char)) :
          { u with path := .segments segments }.pathChars = Url.Segments.chars segments :=
        Url.pathChars_of_segments (u := { u with path := .segments segments }) ha rfl
      simp only [outcome, hu, hspecial, hpath, List.nil_append]
      rfl

/-- A path always has a result: the loop never cuts inside a character, never finds the path
malformed, and refuses it exactly if a separator is escaped. Every other path has a canonical
form, which begins with a slash. -/
theorem every_path_is_normalized_or_escapes_a_separator (p : String) :
    scanPath p = (normalizePath p).mapError .refused ∧
      (normalizePath p = .error .encodedSeparator ↔ EscapesSeparator p.toList) ∧
      normalizePath p ≠ .error .malformed ∧
      (EscapesSeparator p.toList ∨
        ∃ n, normalizePath p = .ok n ∧ n.toList.head? = some '/') := by
  refine ⟨scanPath_eq p, ?_⟩
  rw [← unescape?_eq_none_iff, normalizePath_eq]
  cases unescape? p.toList with
  | none => simp
  | some cs =>
      have hhead := head_canonicalChars cs
      refine ⟨by simp, by simp, .inr ⟨_, rfl, ?_⟩⟩
      rwa [String.toList_ofList]

/-- A character of two bytes stands where an escape would have its digits. -/
example : normalizePath "%é%4" = .ok "/%%C3%A9%4" := by
  rfl

end Route

end AuthGateway
