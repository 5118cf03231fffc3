import AuthGateway.Revocation.Bloom
import Mathlib.Algebra.Group.Nat.Defs

/-!
The bits of a Bloom filter. To set one changes this one and no other, so that after any
insertions a bit is set exactly if it was set before or an inserted key selects it. From
this come the answers of the filter and all that they depend on. The digests are left
open: whatever bytes are taken for the digest of a key, the same holds.
-/
namespace AuthGateway.Revocation.Bloom

section Bits

variable {words words' : Array UInt64} {bit other : UInt64}

theorem wordIndex_eq (bit : UInt64) : wordIndex bit = bit.toNat / 64 :=
  UInt64.toNat_div bit 64

theorem toNat_mask (bit : UInt64) : (mask bit).toNat = 2 ^ (bit.toNat % 64) := by
  have hlt : bit.toNat % 64 < 64 := Nat.mod_lt _ (by decide)
  have hmod : (bit % 64).toNat = bit.toNat % 64 := by rw [UInt64.toNat_mod]; rfl
  have hone : (1 : UInt64).toNat = 1 := rfl
  rw [mask, UInt64.toNat_shiftLeft, hmod, hone, Nat.mod_eq_of_lt hlt, Nat.one_shiftLeft]
  exact Nat.mod_eq_of_lt (Nat.pow_lt_pow_right (by decide) hlt)

/-- A bit is looked up in the binary digits of its word. -/
theorem hasBit_eq_testBit (words : Array UInt64) (bit : UInt64) :
    hasBit words bit = (words.getD (wordIndex bit) 0).toNat.testBit (bit.toNat % 64) := by
  rw [hasBit, Bool.eq_iff_iff, bne_iff_ne, Ne, ← UInt64.toNat_inj, UInt64.toNat_and, toNat_mask,
    UInt64.toNat_zero]
  constructor
  · intro hne
    obtain ⟨i, hi⟩ := Nat.exists_testBit_of_ne_zero hne
    rw [Nat.testBit_and, Nat.testBit_two_pow, Bool.and_eq_true, decide_eq_true_eq] at hi
    rw [hi.2]
    exact hi.1
  · intro hset hzero
    have hdigit := Nat.zero_testBit (bit.toNat % 64)
    rw [← hzero, Nat.testBit_and, hset, Nat.testBit_two_pow_self] at hdigit
    cases hdigit

theorem eq_iff_place :
    bit = other ↔ wordIndex bit = wordIndex other ∧ bit.toNat % 64 = other.toNat % 64 := by
  rw [← UInt64.toNat_inj, wordIndex_eq, wordIndex_eq]
  omega

theorem hasBit_setBit_iff (h : wordIndex other < words.size) :
    hasBit (setBit words other) bit = true ↔ hasBit words bit = true ∨ bit = other := by
  rw [hasBit_eq_testBit, hasBit_eq_testBit, setBit, Array.getD_eq_getD_getElem?,
    Array.getD_eq_getD_getElem?, Array.getElem?_modify, eq_iff_place]
  by_cases hword : wordIndex other = wordIndex bit
  · rw [hword] at h
    rw [if_pos hword, Array.getElem?_eq_getElem h, Option.map_some, Option.getD_some,
      Option.getD_some, UInt64.toNat_or, Nat.testBit_or, toNat_mask, Nat.testBit_two_pow,
      Bool.or_eq_true, decide_eq_true_eq, and_iff_right hword.symm]
    exact or_congr_right eq_comm
  · rw [if_neg hword, or_iff_left fun hplace => hword hplace.1.symm]

theorem hasBit_foldl_setBit_iff {bits : List UInt64} (h : ∀ b ∈ bits, wordIndex b < words.size) :
    hasBit (bits.foldl setBit words) bit = true ↔ hasBit words bit = true ∨ bit ∈ bits := by
  induction bits generalizing words with
  | nil => simp
  | cons b rest ih =>
      obtain ⟨hb, hrest⟩ := List.forall_mem_cons.1 h
      have hsize : (setBit words b).size = words.size := Array.size_modify
      rw [← hsize] at hrest
      rw [List.foldl_cons, ih hrest, hasBit_setBit_iff hb, List.mem_cons, or_assoc]

theorem hasBit_replicate_zero (n : Nat) (bit : UInt64) :
    hasBit (Array.replicate n 0) bit = false := by
  rw [hasBit_eq_testBit, Array.getD_eq_getD_getElem?, Array.getElem?_replicate]
  split
  · exact Nat.zero_testBit _
  · exact Nat.zero_testBit _

/-- Words with the same bits are the same, as long as every bit of them has a number. -/
theorem ext_hasBit (hsize : words.size = words'.size) (hbound : words.size ≤ 2 ^ 58)
    (h : ∀ bit, hasBit words bit = true ↔ hasBit words' bit = true) : words = words' := by
  refine Array.ext hsize fun i hi hi' => UInt64.toNat_inj.1 (Nat.eq_of_testBit_eq fun k => ?_)
  by_cases hk : k < 64
  · have hbit := Bool.eq_iff_iff.2 (h (UInt64.ofNat (64 * i + k)))
    have hnumber : (UInt64.ofNat (64 * i + k)).toNat = 64 * i + k :=
      UInt64.toNat_ofNat_of_lt' (by rw [UInt64.size]; omega)
    have hword : (64 * i + k) / 64 = i := by omega
    have hplace : (64 * i + k) % 64 = k := by omega
    rw [hasBit_eq_testBit, hasBit_eq_testBit, wordIndex_eq, hnumber, hword, hplace,
      Array.getD_eq_getD_getElem?, Array.getD_eq_getD_getElem?, Array.getElem?_eq_getElem hi,
      Array.getElem?_eq_getElem hi'] at hbit
    exact hbit
  · have hpow : 2 ^ 64 ≤ 2 ^ k := Nat.pow_le_pow_right (by decide) (by omega)
    rw [Nat.testBit_lt_two_pow (Nat.lt_of_lt_of_le (UInt64.toNat_lt _) hpow),
      Nat.testBit_lt_two_pow (Nat.lt_of_lt_of_le (UInt64.toNat_lt _) hpow)]

end Bits

theorem lt_of_mem_positions {f : Bloom} {digest : List UInt8} {bit : UInt64}
    (h : bit ∈ f.positions digest) : bit.toNat < f.numBits.toNat := by
  rw [positions, List.mem_map] at h
  obtain ⟨i, -, rfl⟩ := h
  rw [UInt64.toNat_mod]
  exact Nat.mod_lt _ f.positive

/-- Every bit that a key selects lies in a word that is there. -/
theorem wordIndex_lt_of_mem_positions {f : Bloom} {digest : List UInt8} {bit : UInt64}
    (h : bit ∈ f.positions digest) : wordIndex bit < f.words.size := by
  have hlt := lt_of_mem_positions h
  rw [wordIndex_eq, f.size_eq]
  omega

theorem hasBit_insertDigest_iff (f : Bloom) (digest : List UInt8) (bit : UInt64) :
    hasBit (f.insertDigest digest).words bit = true ↔
      hasBit f.words bit = true ∨ bit ∈ f.positions digest :=
  hasBit_foldl_setBit_iff fun _ => wordIndex_lt_of_mem_positions

section Keys

variable (hash : String → List UInt8) (f : Bloom) (keys : List String) {key : String}

def insertAllBy : Bloom :=
  keys.foldl (fun g key => g.insertDigest (hash key)) f

/-- Which bits a key selects does not change with what is inserted. -/
theorem positions_insertAllBy (digest : List UInt8) :
    (f.insertAllBy hash keys).positions digest = f.positions digest := by
  induction keys generalizing f with
  | nil => rfl
  | cons k rest ih => exact ih (f.insertDigest (hash k))

theorem numBits_insertAllBy : (f.insertAllBy hash keys).numBits = f.numBits := by
  induction keys generalizing f with
  | nil => rfl
  | cons k rest ih => exact ih (f.insertDigest (hash k))

theorem hasBit_insertAllBy_iff (bit : UInt64) :
    hasBit (f.insertAllBy hash keys).words bit = true ↔
      hasBit f.words bit = true ∨ ∃ key ∈ keys, bit ∈ f.positions (hash key) := by
  induction keys generalizing f with
  | nil => simp [insertAllBy]
  | cons k rest ih =>
      have hstep := ih (f.insertDigest (hash k))
      rw [hasBit_insertDigest_iff, or_assoc] at hstep
      simp only [List.mem_cons, exists_eq_or_imp]
      exact hstep

/-- A key is found exactly if each of its bits was set before or is selected by one of the
keys that were inserted. -/
theorem containsDigest_insertAllBy_iff (digest : List UInt8) :
    (f.insertAllBy hash keys).containsDigest digest = true ↔
      ∀ bit ∈ f.positions digest,
        hasBit f.words bit = true ∨ ∃ key ∈ keys, bit ∈ f.positions (hash key) := by
  rw [containsDigest, positions_insertAllBy, List.all_eq_true]
  exact forall₂_congr fun bit _ => hasBit_insertAllBy_iff hash f keys bit

variable {keys}

theorem containsDigest_insertAllBy (h : key ∈ keys) :
    (f.insertAllBy hash keys).containsDigest (hash key) = true := by
  rw [containsDigest_insertAllBy_iff]
  intro bit hbit
  exact .inr ⟨key, h, hbit⟩

variable {f} in
theorem containsDigest_insertAllBy_of {digest : List UInt8} (h : f.containsDigest digest = true)
    (more : List String) : (f.insertAllBy hash more).containsDigest digest = true := by
  rw [containsDigest, List.all_eq_true] at h
  rw [containsDigest_insertAllBy_iff]
  intro bit hbit
  exact .inl (h bit hbit)

theorem size_words_le : f.words.size ≤ 2 ^ 58 := by
  have hlt := f.numBits.toNat_lt
  rw [f.size_eq]
  omega

/-- Only which keys are inserted shows in the words, not in which order or how often. -/
theorem words_insertAllBy_congr {keys' : List String} (h : ∀ key, key ∈ keys ↔ key ∈ keys') :
    (f.insertAllBy hash keys).words = (f.insertAllBy hash keys').words := by
  apply ext_hasBit
  · rw [size_eq, size_eq, numBits_insertAllBy, numBits_insertAllBy]
  · exact size_words_le _
  · intro bit
    rw [hasBit_insertAllBy_iff, hasBit_insertAllBy_iff]
    exact or_congr_right (exists_congr fun key => and_congr_left' (h key))

end Keys

section OwnDigest

variable {f : Bloom} {key : String}

theorem mayContain_insert_self (f : Bloom) (key : String) :
    (f.insert key).mayContain key = true :=
  containsDigest_insertAllBy digest f (List.mem_singleton.2 rfl)

theorem mayContain_insert_of (h : f.mayContain key = true) (other : String) :
    (f.insert other).mayContain key = true :=
  containsDigest_insertAllBy_of digest h [other]

theorem mayContain_insertAll (f : Bloom) {keys : List String} (h : key ∈ keys) :
    (f.insertAll keys).mayContain key = true :=
  containsDigest_insertAllBy digest f h

end OwnDigest

/-- An empty filter sets no bit, so that it finds no key as soon as it looks at one. -/
theorem not_containsDigest_empty (numBits : UInt64) {numHashes : Nat}
    (positive : 0 < numBits.toNat) (h : 0 < numHashes) (digest : List UInt8) :
    (empty numBits numHashes positive).containsDigest digest = false := by
  -- the first of the bits that are looked up is not set
  obtain ⟨n, rfl⟩ := Nat.exists_eq_succ_of_ne_zero (Nat.ne_of_gt h)
  rw [containsDigest, List.all_eq_false]
  refine ⟨_, List.mem_map_of_mem (List.mem_range.2 (Nat.succ_pos n)), ?_⟩
  rw [Bool.not_eq_true]
  exact hasBit_replicate_zero _ _

/-- Of any size and with any digests, a filter stays within its words, finds every key that
was inserted whatever comes after it, and depends on which keys these are and on nothing
else; an empty one finds none. -/
theorem inserted_keys_are_found (hash : String → List UInt8) (f : Bloom) :
    (∀ key, ∀ bit ∈ f.positions (hash key), wordIndex bit < f.words.size) ∧
    (∀ keys more, ∀ key ∈ keys,
      (f.insertAllBy hash keys).containsDigest (hash key) = true ∧
      ((f.insertAllBy hash keys).insertAllBy hash more).containsDigest (hash key) = true) ∧
    (∀ keys keys', (∀ key, key ∈ keys ↔ key ∈ keys') →
      (f.insertAllBy hash keys).words = (f.insertAllBy hash keys').words) ∧
    ∀ numBits numHashes positive, 0 < numHashes →
      ∀ key, (empty numBits numHashes positive).containsDigest (hash key) = false := by
  refine ⟨?inRange, ?found, ?sameWords, ?empty⟩
  case inRange =>
    intro key bit hbit
    exact wordIndex_lt_of_mem_positions hbit
  case found =>
    intro keys more key hkey
    have hfound := containsDigest_insertAllBy hash f hkey
    exact ⟨hfound, containsDigest_insertAllBy_of hash hfound more⟩
  case sameWords =>
    intro keys keys' h
    exact words_insertAllBy_congr hash f h
  case empty =>
    intro numBits numHashes positive hhashes key
    exact not_containsDigest_empty numBits positive hhashes (hash key)

end AuthGateway.Revocation.Bloom
