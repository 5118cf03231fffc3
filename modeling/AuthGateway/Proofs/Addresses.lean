import AuthGateway.Proofs.HostText
import Mathlib.Algebra.Group.Nat.Defs

/-!
Addresses that are read again. An address is what its text stands for, whichever
groups of zeros the text leaves out.
-/
namespace AuthGateway

namespace Url

namespace Ipv4

variable {base n : Nat} {cs : List Char}

/-! Digits. -/

theorem value?_digitChar {d : Nat} (h : d < 16) : Hex.value? (Nat.digitChar d) = some d := by
  have hall : ∀ d < 16, Hex.value? (Nat.digitChar d) = some d := by decide
  exact hall d h

def withDigit? (base n : Nat) (c : Char) : Option Nat :=
  (Hex.value? c).bind fun d => if d < base then some (n * base + d) else none

theorem digits?_eq (base : Nat) (cs : List Char) : digits? base cs = cs.foldlM (withDigit? base) 0 :=
  rfl

theorem digits?_concat (base : Nat) (cs : List Char) (c : Char) :
    digits? base (cs ++ [c]) = (digits? base cs).bind fun n => withDigit? base n c := by
  rw [digits?_eq, digits?_eq, List.foldlM_append]
  refine congrArg (Option.bind _) (funext fun n => ?_)
  rw [List.foldlM_cons]
  exact Option.bind_fun_some _

theorem withDigit?_digitChar {d : Nat} (hbase : base ≤ 16) (hd : d < base) (n : Nat) :
    withDigit? base n (Nat.digitChar d) = some (n * base + d) := by
  rw [withDigit?, value?_digitChar (by omega), Option.bind_some, if_pos hd]

/-- The digits of a number denote it. -/
theorem digits?_toDigits (hbase : 1 < base ∧ base ≤ 16) (n : Nat) :
    digits? base (Nat.toDigits base n) = some n := by
  induction n using Nat.strongRecOn with
  | ind n ih =>
      rw [Nat.toDigits_eq_if hbase.1]
      split
      · next hlt =>
          have hsingle := digits?_concat base [] (Nat.digitChar n)
          rw [List.nil_append] at hsingle
          rw [hsingle, digits?, List.foldlM_nil]
          exact (withDigit?_digitChar hbase.2 hlt 0).trans (by rw [Nat.zero_mul, Nat.zero_add])
      · next hge =>
          have hdiv : n / base < n := Nat.div_lt_self (by omega) hbase.1
          have hmod : n % base < base := Nat.mod_lt n (by omega)
          rw [digits?_concat, ih _ hdiv, Option.bind_some, withDigit?_digitChar hbase.2 hmod,
            Nat.mul_comm, Nat.div_add_mod]

theorem foldlM_withDigit?_lt {m : Nat} (h : cs.foldlM (withDigit? base) m = some n) :
    n < (m + 1) * base ^ cs.length := by
  induction cs generalizing m with
  | nil =>
      obtain rfl := Option.some.inj h
      rw [List.length_nil, Nat.pow_zero, Nat.mul_one]
      exact Nat.lt_succ_self m
  | cons c cs ih =>
      rw [List.foldlM_cons] at h
      obtain ⟨k, hk, h⟩ := Option.bind_eq_some_iff.1 h
      obtain ⟨d, -, hd⟩ := Option.bind_eq_some_iff.1 hk
      obtain ⟨hlt, heq⟩ := Option.ite_none_right_eq_some.1 hd
      obtain rfl := Option.some.inj heq
      have hstep : m * base + d + 1 ≤ (m + 1) * base := by
        rw [Nat.succ_mul]
        omega
      calc
        n < (m * base + d + 1) * base ^ cs.length := ih h
        _ ≤ (m + 1) * base * base ^ cs.length := Nat.mul_le_mul_right _ hstep
        _ = (m + 1) * base ^ (c :: cs).length := by
          rw [List.length_cons, Nat.pow_succ, Nat.mul_assoc, Nat.mul_comm base]

theorem digits?_lt (h : digits? base cs = some n) : n < base ^ cs.length := by
  have hlt := foldlM_withDigit?_lt h
  rwa [Nat.zero_add, Nat.one_mul] at hlt

/-! Addresses. -/

def bytes (address : UInt32) : List Nat :=
  let n := address.toNat
  [n / 16777216, n / 65536 % 256, n / 256 % 256, n % 256]

variable (address : UInt32)

theorem chars_eq : chars address = Split.join ['.'] ((bytes address).map Decimal.natChars) := by
  simp [chars, bytes, Split.join]

theorem lt_of_mem_bytes {n : Nat} (h : n ∈ bytes address) : n < 256 := by
  have := address.toNat_lt
  simp only [bytes, List.mem_cons, List.not_mem_nil, or_false] at h
  omega

theorem number?_natChars {n : Nat} (h : n < 256) : number? (Decimal.natChars n) = some n := by
  have hall : ∀ n < 256, number? (Decimal.natChars n) = some n := by decide +kernel
  exact hall n h

theorem pieces_chars : Split.pieces '.' (chars address) = (bytes address).map Decimal.natChars := by
  rw [chars_eq]
  refine Split.pieces_join (by simp [bytes]) fun p hp => ?_
  obtain ⟨n, -, rfl⟩ := List.mem_map.1 hp
  exact fun hm => absurd (Decimal.toNat_of_mem_natChars hm) (by decide)

theorem parts_chars : parts (chars address) = (bytes address).map Decimal.natChars := by
  rw [parts, pieces_chars, if_neg]
  rintro ⟨-, hlast⟩
  obtain ⟨n, -, hn⟩ := List.mem_map.1 (List.mem_of_getLast? hlast)
  exact Nat.toDigits_ne_nil hn

theorem endsInNumber_chars : endsInNumber (chars address) = true := by
  have hlast : (parts (chars address)).getLast? = some (Decimal.natChars (address.toNat % 256)) := by
    rw [parts_chars]
    rfl
  rw [endsInNumber, hlast]
  dsimp only
  rw [number?_natChars (Nat.mod_lt _ (by decide)), Option.isSome_some, Bool.or_true]

theorem ofNumbers?_bytes : ofNumbers? (bytes address) = some address.toNat := by
  have := address.toNat_lt
  have hlast : (bytes address).getLast?.getD 0 = address.toNat % 256 := rfl
  have hfirsts : (bytes address).dropLast =
      [address.toNat / 16777216, address.toNat / 65536 % 256, address.toNat / 256 % 256] := rfl
  rw [bytes, ofNumbers?, ← bytes, hlast, hfirsts]
  · rw [if_neg]
    · simp [List.zipIdx, Nat.shiftLeft_eq]
      omega
    · simp
      omega
  · exact nofun

/-- An address is read again from its text. -/
theorem ofChars?_chars : ofChars? (chars address) = some address := by
  have hnumbers : (parts (chars address)).mapM number? = some (bytes address) := by
    rw [parts_chars, mapM_eq_some_iff, List.map_map]
    exact List.map_congr_left fun n hn => number?_natChars (lt_of_mem_bytes address hn)
  rw [ofChars?, hnumbers, Option.bind_eq_bind, Option.bind_some, ofNumbers?_bytes]
  exact congrArg some (UInt32.ofNat_toNat)

end Ipv4

namespace Ipv6

variable {cs : List Char} {groups : List Nat}

/-! Groups. -/

theorem group?_groupChars {n : Nat} (h : n < 0x10000) : group? (groupChars n) = some n := by
  have hlength : (groupChars n).length ≤ 4 :=
    (Nat.length_toDigits_le_iff (by decide) (by decide)).2 h
  have hempty : (groupChars n).isEmpty = false := List.isEmpty_eq_false_iff.2 Nat.toDigits_ne_nil
  rw [group?, hempty, if_neg (by simpa using hlength)]
  exact Ipv4.digits?_toDigits (by decide) n

theorem group?_lt {n : Nat} (h : group? cs = some n) : n < 0x10000 := by
  obtain ⟨hlength, hdigits⟩ := Option.ite_none_left_eq_some.1 h
  calc
    n < 16 ^ cs.length := Ipv4.digits?_lt hdigits
    _ ≤ 16 ^ 4 := Nat.pow_le_pow_right (by decide) (Nat.not_lt.1 (not_or.1 hlength).2)

theorem byte?_le {n : Nat} (h : byte? cs = some n) : n ≤ 255 := by
  obtain ⟨-, hfilter⟩ := Option.ite_none_left_eq_some.1 h
  exact of_decide_eq_true (Option.filter_eq_some_iff.1 hfilter).2

theorem dotted?_lt (h : dotted? cs = some groups) : ∀ g ∈ groups, g < 0x10000 := by
  rw [dotted?] at h
  split at h
  · next a b c d hbytes =>
      obtain rfl := Option.some.inj h
      have hbyte : ∀ n ∈ [a, b, c, d], n ≤ 255 := by
        intro n hn
        obtain ⟨p, -, hp⟩ := exists_of_mem_parts hbytes n hn
        exact byte?_le hp
      simp only [List.forall_mem_cons] at hbyte ⊢
      grind
  · cases h

theorem groups?_lt {dottedEnd : Bool} {ps : List (List Char)}
    (h : groups? dottedEnd ps = some groups) : ∀ g ∈ groups, g < 0x10000 := by
  fun_induction groups? dottedEnd ps generalizing groups with
  | case1 =>
      obtain rfl := Option.some.inj h
      exact nofun
  | case2 p hdotted => exact dotted?_lt h
  | case3 p hplain =>
      obtain ⟨g, hg, rfl⟩ := Option.map_eq_some_iff.1 h
      simpa using group?_lt hg
  | case4 p rest hne ih =>
      obtain ⟨g, hg, h⟩ := Option.bind_eq_some_iff.1 h
      obtain ⟨gs, hgs, h⟩ := Option.bind_eq_some_iff.1 h
      obtain rfl := Option.some.inj h
      exact List.forall_mem_cons.2 ⟨group?_lt hg, ih hgs⟩

theorem side?_lt {dottedEnd : Bool} (h : side? dottedEnd cs = some groups) :
    ∀ g ∈ groups, g < 0x10000 := by
  rw [side?] at h
  split at h
  · obtain rfl := Option.some.inj h
    exact nofun
  · exact groups?_lt h

structure IsAddress (groups : List Nat) : Prop where
  length : groups.length = 8
  small : ∀ g ∈ groups, g < 0x10000

/-- What is read as an address is eight groups of sixteen bits. -/
theorem isAddress_of_ofChars? (h : ofChars? cs = some groups) : IsAddress groups := by
  rw [ofChars?] at h
  split at h
  · obtain ⟨l, hl, h⟩ := Option.bind_eq_some_iff.1 h
    obtain ⟨r, hr, h⟩ := Option.bind_eq_some_iff.1 h
    obtain ⟨hle, h⟩ := Option.ite_none_right_eq_some.1 h
    obtain rfl := Option.some.inj h
    refine ⟨?_, fun g hg => ?_⟩
    · simp only [List.length_append, List.length_replicate]
      omega
    · rcases List.mem_append.1 hg with hg | hg
      · rcases List.mem_append.1 hg with hg | hg
        · exact side?_lt hl g hg
        · rw [List.eq_of_mem_replicate hg]
          decide
      · exact side?_lt hr g hg
  · obtain ⟨hside, hlength⟩ := Option.filter_eq_some_iff.1 h
    exact ⟨eq_of_beq hlength, side?_lt hside⟩

/-! Groups in a row. -/

theorem plain_groupChars {n : Nat} {c : Char} (h : c ∈ groupChars n) : c ≠ ':' ∧ c ≠ '.' := by
  have hcode := Host.isDigitCode_of_mem_groupChars h
  constructor <;> rintro rfl <;> exact absurd hcode (by decide)

/-- Groups are read again from their text, whether or not a dotted end is allowed. -/
theorem groups?_groupChars (dottedEnd : Bool) (h : ∀ g ∈ groups, g < 0x10000) :
    groups? dottedEnd (groups.map groupChars) = some groups := by
  induction groups with
  | nil => rfl
  | cons g groups ih =>
      obtain ⟨hg, hgroups⟩ := List.forall_mem_cons.1 h
      cases groups with
      | nil =>
          have hdot : (groupChars g).contains '.' = false := by
            rw [← Bool.not_eq_true, List.contains_iff_mem]
            exact fun hm => (plain_groupChars hm).2 rfl
          rw [List.map_cons, List.map_nil, groups?, hdot, Bool.and_false, if_neg Bool.false_ne_true,
            group?_groupChars hg]
          rfl
      | cons k rest =>
          have ih := ih hgroups
          rw [List.map_cons] at ih ⊢
          rw [List.map_cons, groups?, ih, group?_groupChars hg]
          · rfl
          · exact nofun

theorem joined_cons_cons (g k : Nat) (rest : List Nat) :
    joined (g :: k :: rest) = groupChars g ++ ':' :: joined (k :: rest) := by
  simp [joined, Split.join]

/-- Groups in a row start with a digit, if there are any. -/
theorem exists_joined_cons (g : Nat) (rest : List Nat) :
    ∃ c tail, joined (g :: rest) = c :: tail ∧ c ≠ ':' := by
  obtain ⟨c, tail, hg⟩ := List.exists_cons_of_ne_nil (l := groupChars g) Nat.toDigits_ne_nil
  have hc : c ≠ ':' := (plain_groupChars (hg ▸ List.mem_cons_self)).1
  cases rest with
  | nil => exact ⟨c, tail, hg, hc⟩
  | cons k rest => exact ⟨c, tail ++ ':' :: joined (k :: rest), by rw [joined_cons_cons, hg]; rfl, hc⟩

theorem side?_joined (dottedEnd : Bool) (h : ∀ g ∈ groups, g < 0x10000) :
    side? dottedEnd (joined groups) = some groups := by
  cases groups with
  | nil => rfl
  | cons g rest =>
      obtain ⟨c, tail, hchars, -⟩ := exists_joined_cons g rest
      have hempty : (joined (g :: rest)).isEmpty = false := by rw [hchars]; rfl
      have hpieces : Split.pieces ':' (joined (g :: rest)) = (g :: rest).map groupChars := by
        refine Split.pieces_join (by simp) fun p hp => ?_
        obtain ⟨n, -, rfl⟩ := List.mem_map.1 hp
        exact fun hm => (plain_groupChars hm).1 rfl
      rw [side?, hempty, if_neg Bool.false_ne_true, hpieces, groups?_groupChars dottedEnd h]

/-! Double colons. -/

theorem sides_cons {c : Char} (before tail : List Char) (h : c = ':' → tail.head? ≠ some ':') :
    sides before (c :: tail) = sides (c :: before) tail := by
  rw [sides]
  rintro rest rfl rfl
  exact h rfl rfl

theorem sides_append {p : List Char} (hp : ':' ∉ p) (before tail : List Char) :
    sides before (p ++ tail) = sides (p.reverse ++ before) tail := by
  induction p generalizing before with
  | nil => rfl
  | cons c p ih =>
      obtain ⟨hc, hp⟩ := not_or.1 (mt List.mem_cons.2 hp)
      rw [List.cons_append, sides_cons _ _ fun heq => absurd heq.symm hc, ih hp]
      simp

/-- No double colon stands among groups in a row. -/
theorem sides_joined (groups : List Nat) (before tail : List Char) :
    sides before (joined groups ++ tail) = sides ((joined groups).reverse ++ before) tail := by
  have hcolon (g : Nat) : ':' ∉ groupChars g := fun hm => (plain_groupChars hm).1 rfl
  induction groups generalizing before with
  | nil => rfl
  | cons g groups ih =>
      cases groups with
      | nil => exact sides_append (hcolon g) before tail
      | cons k rest =>
          obtain ⟨c, behind, hchars, hc⟩ := exists_joined_cons k rest
          rw [joined_cons_cons, List.append_assoc, sides_append (hcolon g), List.cons_append,
            sides_cons _ _ fun _ => by simpa [hchars] using hc, ih]
          simp

/-- The longest run stands between a front and a back. -/
theorem exists_longestRun (start : Nat) (groups : List Nat) :
    ∃ front back, (longestRun start groups).1 = start + front.length ∧
      groups = front ++ List.replicate (longestRun start groups).2 0 ++ back := by
  induction groups generalizing start with
  | nil => exact ⟨[], [], rfl, rfl⟩
  | cons g rest ih =>
      rw [longestRun]
      split
      · -- The zeros at the front are at least as many as those further on.
        refine ⟨[], (g :: rest).dropWhile (· == 0), rfl, ?_⟩
        have hzeros : (g :: rest).takeWhile (· == 0) = List.replicate (zeroRun (g :: rest)) 0 := by
          rw [List.eq_replicate_iff]
          exact ⟨rfl, fun n hn => by simpa using List.all_eq_true.1 List.all_takeWhile n hn⟩
        rw [List.nil_append, ← hzeros, List.takeWhile_append_dropWhile]
      · obtain ⟨front, back, hstart, heq⟩ := ih (start + 1)
        refine ⟨g :: front, back, ?_, ?_⟩
        · rw [hstart, List.length_cons]
          omega
        · exact congrArg (g :: ·) heq

/-- An address is read again from its text. -/
theorem ofChars?_chars (h : IsAddress groups) : ofChars? (chars groups) = some groups := by
  obtain ⟨front, back, hstart, heq⟩ := exists_longestRun 0 groups
  rw [Nat.zero_add] at hstart
  rw [chars]
  dsimp only
  split
  · have hnone : sides [] (joined groups) = none := by
      have hsides := sides_joined groups [] []
      rwa [List.append_nil, sides] at hsides
    rw [ofChars?, hnone]
    rw [side?_joined true h.small, Option.filter_some, if_pos (beq_iff_eq.2 h.length)]
  · next hrun =>
      -- The double colon stands for the run, whose length is what the two sides lack of eight.
      generalize (longestRun 0 groups).2 = run at heq hrun ⊢
      have htake : groups.take front.length = front := by
        rw [heq, List.append_assoc, List.take_left]
      have hdrop : groups.drop (front.length + run) = back := by
        rw [heq, List.drop_left' (by simp)]
      have hlength : front.length + run + back.length = 8 := by
        rw [← h.length, heq, List.length_append, List.length_append, List.length_replicate]
      have hfront : ∀ g ∈ front, g < 0x10000 := fun g hg => h.small g (by rw [heq]; simp [hg])
      have hback : ∀ g ∈ back, g < 0x10000 := fun g hg => h.small g (by rw [heq]; simp [hg])
      have hsides : sides [] (joined front ++ ':' :: ':' :: joined back) =
          some (joined front, joined back) := by
        rw [sides_joined, sides]
        simp
      have hrest : 8 - front.length - back.length = run := by omega
      have hfits : front.length + back.length ≤ 7 := by omega
      rw [hstart, htake, hdrop, ofChars?, hsides]
      dsimp only
      rw [side?_joined false hfront, side?_joined true hback, Option.bind_eq_bind, Option.bind_some,
        Option.bind_some, if_pos hfits, hrest, ← heq]

end Ipv6

end Url

end AuthGateway
