import AuthGateway.Proofs.Base64
import AuthGateway.Proofs.Text
import AuthGateway.Token

/-!
A sealed token opens. Encryption in counter mode is its own inverse, the tag is
recomputed from the same data, and the five segments are cut where they were
joined, because no segment holds a dot.
-/
namespace AuthGateway

def Octets.zero (n : Nat) : Octets n :=
  ⟨List.replicate n 0, List.length_replicate⟩

namespace Gcm

theorem zipWith_xor_xor {xs ks : List UInt8} (h : xs.length ≤ ks.length) :
    List.zipWith (· ^^^ ·) (List.zipWith (· ^^^ ·) xs ks) ks = xs := by
  induction xs generalizing ks with
  | nil => simp
  | cons x xs ih =>
      cases ks with
      | nil => simp at h
      | cons k ks =>
          have ih := ih (Nat.le_of_succ_le_succ h)
          simp only [List.zipWith_cons_cons, UInt8.xor_assoc, UInt8.xor_self, UInt8.xor_zero, ih]

theorem applyStream_of_ne_nil (stream : UInt32 → List UInt8) (count : UInt32) {text : List UInt8}
    (h : text ≠ []) :
    applyStream stream count text =
      List.zipWith (· ^^^ ·) (text.take 16) (stream count) ++
        applyStream stream (count + 1) (text.drop 16) := by
  cases text with
  | nil => exact absurd rfl h
  | cons b rest => rw [applyStream, List.drop_succ_cons]

theorem applyStream_nil (stream : UInt32 → List UInt8) (count : UInt32) :
    applyStream stream count [] = [] := by
  rw [applyStream]

/-- Combining twice with a stream of whole blocks gives the text back. -/
theorem applyStream_applyStream {stream : UInt32 → List UInt8}
    (hs : ∀ n, (stream n).length = 16) (count : UInt32) (text : List UInt8) :
    applyStream stream count (applyStream stream count text) = text := by
  induction hn : text.length using Nat.strongRecOn generalizing text count with
  | ind n ih =>
      by_cases h : text = []
      · subst h
        rw [applyStream_nil, applyStream_nil]
      have hlen : 0 < text.length := List.length_pos_iff.2 h
      have hblock : (text.take 16).length ≤ (stream count).length := by
        rw [List.length_take, hs]
        omega
      rw [applyStream_of_ne_nil stream count h]
      generalize hA : List.zipWith (· ^^^ ·) (text.take 16) (stream count) = A
      generalize hB : applyStream stream (count + 1) (text.drop 16) = B
      have hAlen : A.length = min 16 text.length := by
        rw [← hA, List.length_zipWith, List.length_take, hs]
        omega
      -- a block that is not whole is the last one
      have hshort : A.length = 16 ∨ B = [] := by
        by_cases hle : 16 ≤ text.length
        · exact .inl (by omega)
        · right
          rw [← hB, List.drop_eq_nil_of_le (by omega), applyStream_nil]
      have htake : (A ++ B).take 16 = A := by
        cases hshort with
        | inl h16 => rw [← h16, List.take_left']; rfl
        | inr hnil => rw [hnil, List.append_nil, List.take_of_length_le (by omega)]
      have hdrop : (A ++ B).drop 16 = B := by
        cases hshort with
        | inl h16 => rw [← h16, List.drop_left']; rfl
        | inr hnil => rw [hnil, List.append_nil, List.drop_eq_nil_of_le (by omega)]
      have hne : A ++ B ≠ [] := by
        intro e
        have := congrArg List.length e
        simp only [List.length_append, List.length_nil] at this
        omega
      rw [applyStream_of_ne_nil stream count hne, htake, hdrop, ← hA, zipWith_xor_xor hblock,
        ← hB, ih _ (by rw [List.length_drop]; omega) (count + 1) (text.drop 16) rfl,
        List.take_append_drop]

theorem crypt_crypt (key : Octets 32) (nonce : Octets 12) (text : List UInt8) :
    crypt key nonce (crypt key nonce text) = text :=
  applyStream_applyStream (fun _ => Aes.Block.length_toList _) 2 text

theorem decrypt?_encrypt (key : Octets 32) (nonce : Octets 12) (aad plaintext : List UInt8) :
    decrypt? key nonce aad (encrypt key nonce aad plaintext).1 (encrypt key nonce aad plaintext).2 =
      some plaintext := by
  simp only [decrypt?, encrypt, if_true, crypt_crypt]

end Gcm

namespace Token

def isTokenChar (c : Char) : Bool :=
  Base64.isUrlSafe c || c == '.'

theorem segmentBytes?_segment (bytes : List UInt8) : segmentBytes? (segment bytes) = some bytes :=
  Base64.decodePlain?_encodeWith Base64.urlSafe_isProper bytes

theorem segmentBytes?_eq_some_iff {cs : List Char} {bytes : List UInt8} :
    segmentBytes? cs = some bytes ↔ cs = segment bytes := by
  constructor
  · intro h
    exact (Base64.encodeWith_of_decodePlain? h).symm
  · intro h
    rw [h]
    exact segmentBytes?_segment bytes

theorem segment_inj {a b : List UInt8} : segment a = segment b ↔ a = b := by
  constructor
  · intro h
    have hbytes := segmentBytes?_segment a
    rw [h, segmentBytes?_segment] at hbytes
    exact (Option.some.inj hbytes).symm
  · exact congrArg segment

theorem dot_not_mem_segment (bytes : List UInt8) : '.' ∉ segment bytes := by
  intro h
  have := Base64.isUrlSafe_of_mem_encodeWith h
  revert this
  decide

theorem acceptsHeader_ownHeader : acceptsHeader ownHeader = true := by
  decide +kernel

namespace Box

theorem pieces_chars {b : Box} (h : '.' ∉ b.header) : Split.pieces '.' b.chars = b.segments := by
  refine Split.pieces_join (by simp [segments]) fun p hp => ?_
  simp only [segments, List.mem_cons, List.not_mem_nil, or_false] at hp
  rcases hp with rfl | rfl | rfl | rfl | rfl
  · exact h
  · simp
  · exact dot_not_mem_segment _
  · exact dot_not_mem_segment _
  · exact dot_not_mem_segment _

/-- A text is read as a box if it has the segments of this box. -/
theorem ofChars?_eq_some_iff {cs : List Char} {b : Box} :
    ofChars? cs = some b ↔ acceptsHeader b.header = true ∧ Split.pieces '.' cs = b.segments := by
  constructor
  · intro h
    rw [ofChars?] at h
    split at h
    · next header nonce text tag hpieces =>
        obtain ⟨_, hguard, h⟩ := Option.bind_eq_some_iff.1 h
        simp only [Option.bind_eq_bind, Option.bind_eq_some_iff, segmentBytes?_eq_some_iff,
          Octets.ofList?_eq_some_iff, Option.pure_def, Option.some.injEq] at h
        obtain ⟨iv, ⟨_, hnonce, rfl⟩, ct, htext, mac, ⟨_, htag, rfl⟩, rfl⟩ := h
        -- the guard passes only for a header that is accepted
        have haccepts : acceptsHeader header = true := by
          cases haccepts : acceptsHeader header with
          | true => rfl
          | false =>
              rw [haccepts] at hguard
              cases hguard
        rw [hpieces, hnonce, htext, htag]
        exact ⟨haccepts, rfl⟩
    · cases h
  · rintro ⟨haccepts, hpieces⟩
    have hguard : (guard (acceptsHeader b.header = true) : Option Unit) = some () :=
      if_pos haccepts
    rw [ofChars?, hpieces, segments]
    dsimp only
    rw [hguard]
    simp [segmentBytes?_segment, Octets.ofList?_toList]

theorem ofChars?_chars {b : Box} (h : '.' ∉ b.header) (ha : acceptsHeader b.header = true) :
    ofChars? b.chars = some b :=
  ofChars?_eq_some_iff.2 ⟨ha, pieces_chars h⟩

theorem open?_ofPlaintext (key : Octets 32) (nonce : Octets 12) (plaintext : List UInt8) :
    (ofPlaintext key nonce plaintext).open? key = some plaintext :=
  Gcm.decrypt?_encrypt key nonce _ plaintext

/-- A token is made of the URL-safe alphabet and dots. -/
theorem isTokenChar_of_mem_chars {b : Box} (hb : ∀ c ∈ b.header, Base64.isUrlSafe c = true)
    {c : Char} (h : c ∈ b.chars) : isTokenChar c = true := by
  have hseg : ∀ bytes, c ∈ segment bytes → isTokenChar c = true := fun bytes hm => by
    simp [isTokenChar, Base64.isUrlSafe_of_mem_encodeWith hm]
  simp only [chars, segments, Split.join, List.nil_append, List.mem_append, List.mem_singleton] at h
  rcases h with (hhead | hdot) | hdot | (hnonce | hdot) | (htext | hdot) | htag
  · simp [isTokenChar, hb c hhead]
  · simp [isTokenChar, hdot]
  · simp [isTokenChar, hdot]
  · exact hseg _ hnonce
  · simp [isTokenChar, hdot]
  · exact hseg _ htext
  · simp [isTokenChar, hdot]
  · exact hseg _ htag

end Box

/-- What was sealed under a key is found inside under the same key. -/
theorem openBytes_ofPlaintext (key : Octets 32) (nonce : Octets 12) (plaintext : List UInt8) :
    openBytes key (String.ofList (Box.ofPlaintext key nonce plaintext).chars) = .ok plaintext := by
  have hread : Box.ofChars? (Box.ofPlaintext key nonce plaintext).chars =
      some (Box.ofPlaintext key nonce plaintext) :=
    Box.ofChars?_chars (dot_not_mem_segment _) acceptsHeader_ownHeader
  simp only [openBytes, String.toList_ofList, hread, Box.open?_ofPlaintext]

/-- A sealed value is read back if its text reads back. -/
theorem openJson_sealJson {α : Type} {read : Json.Node → Option α} {v : Json.Value} {x : α}
    (h : (Json.parse? (Utf8.encode v.render)).bind read = some x) (key : Octets 32)
    (nonce : Octets 12) : openJson key (sealJson key nonce v) read = .ok x := by
  simp only [openJson, openWith, sealJson, openBytes_ofPlaintext, h]

theorem isTokenChar_of_mem_sealJson {key : Octets 32} {nonce : Octets 12} {v : Json.Value} {c : Char}
    (h : c ∈ (sealJson key nonce v).toList) : isTokenChar c = true := by
  rw [sealJson, String.toList_ofList] at h
  exact Box.isTokenChar_of_mem_chars (fun _ => Base64.isUrlSafe_of_mem_encodeWith) h

end Token

end AuthGateway
