import AuthGateway.Proofs.Header
import AuthGateway.Session.Payload

/-!
Tokens are not malleable. A token that is well formed is the one text of its box,
and whether it opens is a matter of its tag alone. Changing a character of a
sealed token leaves a text that is not well formed, or changes exactly one part
of the box, since each part has a segment of its own.
-/
namespace AuthGateway

/-- One character is replaced by another, put in, or taken out. -/
inductive OneEdit {α : Type} : List α → List α → Prop
  | replace (front back : List α) {x y : α} (hne : x ≠ y) :
      OneEdit (front ++ x :: back) (front ++ y :: back)
  | insert (front back : List α) (x : α) : OneEdit (front ++ back) (front ++ x :: back)
  | delete (front back : List α) (x : α) : OneEdit (front ++ x :: back) (front ++ back)

namespace Split

variable {α : Type} [BEq α] [LawfulBEq α]

/-- An edit that leaves the number of pieces as it is changes exactly one of them. -/
theorem pieces_of_edit {sep : α} {xs ys : List α} (h : OneEdit xs ys)
    (hlength : (pieces sep xs).length = (pieces sep ys).length) :
    ∃ init p q tail, pieces sep xs = init ++ p :: tail ∧ pieces sep ys = init ++ q :: tail ∧
      p ≠ q := by
  -- a separator more or less would have changed the number of pieces
  cases h with
  | @replace front back x y hne =>
      obtain ⟨init, left, right, tail, -, hsep, hchar⟩ := pieces_around sep front back
      by_cases hx : x = sep
      · have hy : y ≠ sep := fun e => hne (hx.trans e.symm)
        rw [hx, hsep, hchar y hy] at hlength
        simp at hlength
      · by_cases hy : y = sep
        · rw [hy, hsep, hchar x hx] at hlength
          simp at hlength
        · exact ⟨init, _, _, tail, hchar x hx, hchar y hy, by simpa using hne⟩
  | insert front back x =>
      obtain ⟨init, left, right, tail, hnone, hsep, hchar⟩ := pieces_around sep front back
      by_cases hx : x = sep
      · rw [hx, hnone, hsep] at hlength
        simp at hlength
      · exact ⟨init, _, _, tail, hnone, hchar x hx, by simp⟩
  | delete front back x =>
      obtain ⟨init, left, right, tail, hnone, hsep, hchar⟩ := pieces_around sep front back
      by_cases hx : x = sep
      · rw [hx, hnone, hsep] at hlength
        simp at hlength
      · exact ⟨init, _, _, tail, hchar x hx, hnone, by simp⟩

end Split

theorem Octets.toList_inj {n : Nat} {a b : Octets n} : a.toList = b.toList ↔ a = b :=
  ⟨Octets.ext, congrArg Octets.toList⟩

namespace Token

/-- The token is well formed and denotes the box: a header that is accepted, no
key, and base64url of exactly the parts of the box. -/
structure Denotes (token : String) (b : Box) : Prop where
  header : ∃ bytes n, b.header = segment bytes ∧ Json.parse? bytes = some n ∧ NamesAlgorithms n
  text : token.toList = b.chars

/-- A token is read as the box that it denotes. -/
theorem ofChars?_iff_denotes {token : String} {b : Box} :
    Box.ofChars? token.toList = some b ↔ Denotes token b := by
  rw [Box.ofChars?_eq_some_iff]
  constructor
  · rintro ⟨haccepts, hpieces⟩
    refine ⟨(acceptsHeader_iff b.header).1 haccepts, ?_⟩
    rw [Box.chars, ← hpieces, Split.join_pieces]
  · rintro ⟨hheader, htext⟩
    have hdot : '.' ∉ b.header := by
      obtain ⟨bytes, -, hbytes, -⟩ := hheader
      rw [hbytes]
      exact dot_not_mem_segment bytes
    rw [htext, Box.pieces_chars hdot]
    exact ⟨(acceptsHeader_iff b.header).2 hheader, rfl⟩

theorem Denotes.unique {token : String} {b b' : Box} (h : Denotes token b)
    (h' : Denotes token b') : b = b' :=
  Option.some.inj ((ofChars?_iff_denotes.2 h).symm.trans (ofChars?_iff_denotes.2 h'))

/-- The tag of the box is the one that its other parts have under the key. -/
def Box.IsAuthentic (key : Octets 32) (b : Box) : Prop :=
  b.tag = Gcm.tag key b.nonce (Utf8.encodeChars b.header) b.ciphertext

instance (key : Octets 32) (b : Box) : Decidable (b.IsAuthentic key) :=
  inferInstanceAs (Decidable (b.tag = _))

theorem Box.open?_eq_none_iff {key : Octets 32} {b : Box} :
    b.open? key = none ↔ ¬ b.IsAuthentic key := by
  rw [Box.open?, Gcm.decrypt?, Box.IsAuthentic, eq_comm (a := b.tag)]
  split <;> simp_all

section Verdict

variable {α : Type} {key : Octets 32} {token : String} {b : Box}

theorem openWith_of_not_denotes (h : ¬ ∃ b, Denotes token b) (read : List UInt8 → Option α) :
    openWith key token read = .error .malformed := by
  have hnone : Box.ofChars? token.toList = none := by
    cases hread : Box.ofChars? token.toList with
    | none => rfl
    | some b => exact absurd ⟨b, ofChars?_iff_denotes.1 hread⟩ h
  rw [openWith, openBytes, hnone]

theorem openWith_of_not_authentic (h : Denotes token b) (htag : ¬ b.IsAuthentic key)
    (read : List UInt8 → Option α) : openWith key token read = .error .tampered := by
  simp only [openWith, openBytes, ofChars?_iff_denotes.2 h, Box.open?_eq_none_iff.2 htag]

theorem openWith_of_authentic (h : Denotes token b) (htag : b.IsAuthentic key)
    (read : List UInt8 → Option α) :
    openWith key token read =
      (read (Gcm.crypt key b.nonce b.ciphertext)).elim (.error .schemaMismatch) .ok := by
  have hopen : b.open? key = some (Gcm.crypt key b.nonce b.ciphertext) := by
    rw [Box.open?, Gcm.decrypt?, if_pos htag.symm]
  simp only [openWith, openBytes, ofChars?_iff_denotes.2 h, hopen]
  cases read (Gcm.crypt key b.nonce b.ciphertext) with
  | none => rfl
  | some x => rfl

theorem opened_of_authentic (h : Denotes token b) (htag : b.IsAuthentic key)
    (read : List UInt8 → Option α) :
    (∃ x, openWith key token read = .ok x) ∨
      openWith key token read = .error .schemaMismatch := by
  rw [openWith_of_authentic h htag]
  cases read (Gcm.crypt key b.nonce b.ciphertext) with
  | none => exact .inr rfl
  | some x => exact .inl ⟨x, rfl⟩

theorem denotes_of_not_malformed (h : openBytes key token ≠ .error .malformed) :
    ∃ b, Denotes token b := by
  cases hread : Box.ofChars? token.toList with
  | none => exact absurd (by rw [openBytes, hread]) h
  | some b => exact ⟨b, ofChars?_iff_denotes.1 hread⟩

theorem malformed_iff (read : List UInt8 → Option α) :
    openWith key token read = .error .malformed ↔ ¬ ∃ b, Denotes token b := by
  constructor
  · rintro h ⟨b, hb⟩
    by_cases htag : b.IsAuthentic key
    · rcases opened_of_authentic hb htag read with ⟨x, hx⟩ | hx <;> rw [hx] at h <;> cases h
    · rw [openWith_of_not_authentic hb htag] at h
      cases h
  · exact fun h => openWith_of_not_denotes h read

theorem tampered_iff (read : List UInt8 → Option α) :
    openWith key token read = .error .tampered ↔
      ∃ b, Denotes token b ∧ ¬ b.IsAuthentic key := by
  constructor
  · intro h
    by_cases hd : ∃ b, Denotes token b
    · obtain ⟨b, hb⟩ := hd
      refine ⟨b, hb, fun htag => ?_⟩
      rcases opened_of_authentic hb htag read with ⟨x, hx⟩ | hx <;> rw [hx] at h <;> cases h
    · rw [openWith_of_not_denotes hd] at h
      cases h
  · rintro ⟨b, hb, htag⟩
    exact openWith_of_not_authentic hb htag read

/-- A reader sees what is inside exactly where the token denotes an authentic box. -/
theorem opened_iff (read : List UInt8 → Option α) :
    (∃ x, openWith key token read = .ok x) ∨ openWith key token read = .error .schemaMismatch ↔
      ∃ b, Denotes token b ∧ b.IsAuthentic key := by
  constructor
  · intro h
    by_cases hd : ∃ b, Denotes token b
    · obtain ⟨b, hb⟩ := hd
      refine ⟨b, hb, Decidable.not_not.1 fun htag => ?_⟩
      rw [openWith_of_not_authentic hb htag] at h
      rcases h with ⟨x, hx⟩ | hx <;> cases hx
    · rw [openWith_of_not_denotes hd] at h
      rcases h with ⟨x, hx⟩ | hx <;> cases hx
  · rintro ⟨b, hb, htag⟩
    exact opened_of_authentic hb htag read

end Verdict

inductive Box.OneChange (b : Box) : Box → Prop
  | header {header : List Char} (hne : header ≠ b.header) : OneChange b { b with header }
  | nonce {nonce : Octets 12} (hne : nonce ≠ b.nonce) : OneChange b { b with nonce }
  | ciphertext {ciphertext : List UInt8} (hne : ciphertext ≠ b.ciphertext) :
      OneChange b { b with ciphertext }
  | tag {tag : Octets 16} (hne : tag ≠ b.tag) : OneChange b { b with tag }

/-- Boxes whose segments differ in one place differ in the part that stands there. -/
theorem Box.oneChange_of_segments {b b' : Box} {init tail : List (List Char)} {p q : List Char}
    (h : b.segments = init ++ p :: tail) (h' : b'.segments = init ++ q :: tail) (hne : p ≠ q) :
    b.OneChange b' := by
  obtain ⟨header, nonce, text, tag⟩ := b
  obtain ⟨header', nonce', text', tag'⟩ := b'
  match init with
  | [] =>
      simp only [segments, List.nil_append, List.cons.injEq] at h h'
      obtain ⟨rfl, rfl⟩ := h
      obtain ⟨rfl, htail⟩ := h'
      simp only [List.cons.injEq, true_and, and_true, segment_inj, Octets.toList_inj] at htail
      obtain ⟨rfl, rfl, rfl⟩ := htail
      exact .header (Ne.symm hne)
  | [_] =>
      simp only [segments, List.cons_append, List.nil_append, List.cons.injEq] at h h'
      -- no box has anything in the segment of the key
      exact absurd (h.2.1.symm.trans h'.2.1) hne
  | [_, _] =>
      simp only [segments, List.cons_append, List.nil_append, List.cons.injEq] at h h'
      obtain ⟨rfl, rfl, rfl, rfl⟩ := h
      obtain ⟨rfl, -, rfl, htail⟩ := h'
      simp only [List.cons.injEq, and_true, segment_inj, Octets.toList_inj] at htail
      obtain ⟨rfl, rfl⟩ := htail
      exact .nonce fun e => hne (by rw [e])
  | [_, _, _] =>
      simp only [segments, List.cons_append, List.nil_append, List.cons.injEq] at h h'
      obtain ⟨rfl, rfl, rfl, rfl, rfl⟩ := h
      obtain ⟨rfl, -, hnonce, rfl, htail⟩ := h'
      simp only [List.cons.injEq, and_true, segment_inj, Octets.toList_inj] at hnonce htail
      obtain rfl := hnonce
      obtain rfl := htail
      exact .ciphertext fun e => hne (by rw [e])
  | [_, _, _, _] =>
      simp only [segments, List.cons_append, List.nil_append, List.cons.injEq] at h h'
      obtain ⟨rfl, rfl, rfl, rfl, rfl, rfl⟩ := h
      obtain ⟨rfl, -, hnonce, htext, rfl, -⟩ := h'
      simp only [segment_inj, Octets.toList_inj] at hnonce htext
      obtain rfl := hnonce
      obtain rfl := htext
      exact .tag fun e => hne (by rw [e])
  | _ :: _ :: _ :: _ :: _ :: _ => simp [segments] at h

/-- What an edited token denotes differs in exactly one part. -/
theorem oneChange_of_edit {b b' : Box} {token : String} (hb : '.' ∉ b.header)
    (hedit : OneEdit b.chars token.toList) (h : Denotes token b') : b.OneChange b' := by
  have hbox := Box.pieces_chars hb
  have hbox' := (Box.ofChars?_eq_some_iff.1 (ofChars?_iff_denotes.2 h)).2
  have hlength : (Split.pieces '.' b.chars).length = (Split.pieces '.' token.toList).length := by
    rw [hbox, hbox']
    rfl
  obtain ⟨init, p, q, tail, hp, hq, hne⟩ := Split.pieces_of_edit hedit hlength
  exact Box.oneChange_of_segments (hbox.symm.trans hp) (hbox'.symm.trans hq) hne

/-- The tag whose first character is the next one. -/
def nextTag (t : Octets 16) : Octets 16 :=
  ⟨t.toList.modifyHead (· + 4), (List.length_modifyHead ..).trans t.length_eq⟩

theorem digit_inj {m n : Nat} (hm : m < 64) (hn : n < 64)
    (h : Base64.urlSafe.digit m = Base64.urlSafe.digit n) : m = n := by
  have hvalue := Base64.value?_digit hm
  rw [h, Base64.value?_digit hn] at hvalue
  exact (Option.some.inj hvalue).symm

/-- Going on to the next tag changes the first character of its segment and no other. -/
theorem exists_segment_nextTag (t : Octets 16) :
    ∃ c d back, c ≠ d ∧ segment t.toList = c :: back ∧ segment (nextTag t).toList = d :: back := by
  obtain ⟨bytes, hlength⟩ := t
  match bytes with
  | x :: y :: z :: rest =>
      have hx := x.toNat_lt
      have hnext : (x + 4).toNat = (x.toNat + 4) % 256 := UInt8.toNat_add x 4
      have hlow : (x + 4).toNat % 4 = x.toNat % 4 := by omega
      refine ⟨Base64.urlSafe.digit (x.toNat / 4), Base64.urlSafe.digit ((x + 4).toNat / 4), _,
        fun h => ?_, rfl, ?_⟩
      · have := digit_inj (by omega) (by omega) h
        omega
      · simp only [nextTag, List.modifyHead_cons, segment, Base64.encodeWith, hlow]
  | [] => cases hlength
  | [_] => cases hlength
  | [_, _] => cases hlength

theorem nextTag_ne (t : Octets 16) : nextTag t ≠ t := by
  intro h
  obtain ⟨c, d, back, hne, hc, hd⟩ := exists_segment_nextTag t
  rw [h, hc] at hd
  exact hne (List.cons.inj hd).1

theorem oneEdit_nextTag (b : Box) :
    OneEdit b.chars ({ b with tag := nextTag b.tag } : Box).chars := by
  obtain ⟨c, d, back, hne, hc, hd⟩ := exists_segment_nextTag b.tag
  have hchars : ∃ front, ∀ t : Octets 16,
      ({ b with tag := t } : Box).chars = front ++ segment t.toList := by
    refine ⟨b.header ++ '.' :: '.' :: (segment b.nonce.toList ++
      '.' :: (segment b.ciphertext ++ ['.'])), fun t => ?_⟩
    simp [Box.chars, Box.segments, Split.join]
  obtain ⟨front, hfront⟩ := hchars
  have hedit := OneEdit.replace front back hne
  rw [← hc, ← hd, ← hfront, ← hfront] at hedit
  exact hedit

def retagged (key : Octets 32) (nonce : Octets 12) (v : Json.Value) : String :=
  let b := Box.ofPlaintext key nonce (Utf8.encode v.render)
  String.ofList ({ b with tag := nextTag b.tag } : Box).chars

theorem oneEdit_retagged (key : Octets 32) (nonce : Octets 12) (v : Json.Value) :
    OneEdit (sealJson key nonce v).toList (retagged key nonce v).toList := by
  rw [sealJson, retagged, String.toList_ofList, String.toList_ofList]
  exact oneEdit_nextTag _

theorem open?_retagged {key : Octets 32} {nonce : Octets 12} {v : Json.Value} {b : Box}
    (h : Denotes (retagged key nonce v) b) : b.open? key = none := by
  have hb : Denotes (retagged key nonce v) { Box.ofPlaintext key nonce (Utf8.encode v.render) with
      tag := nextTag (Box.ofPlaintext key nonce (Utf8.encode v.render)).tag } :=
    ⟨(acceptsHeader_iff _).1 acceptsHeader_ownHeader, String.toList_ofList⟩
  -- the tag in the box is computed, so that no other one opens it
  rw [h.unique hb, Box.open?_eq_none_iff]
  exact nextTag_ne _

/-- Tokens are not malleable: no two well-formed ones denote the same box, the
verdict is a matter of form and tag before any reader sees what is inside, and a
sealed token in which one character was edited does not open, unless the box that
the edited text denotes is a forgery that differs in one part. -/
theorem not_malleable (key : Octets 32) :
    (∀ token token' : String, token ≠ token' →
      openBytes key token ≠ .error .malformed → openBytes key token' ≠ .error .malformed →
      Box.ofChars? token.toList ≠ Box.ofChars? token'.toList) ∧
    (∀ (token : String) (α : Type) (read : List UInt8 → Option α),
      ((∃ x, openWith key token read = .ok x) ∨
          openWith key token read = .error .schemaMismatch ↔
        ∃ b, Denotes token b ∧ b.IsAuthentic key) ∧
      (openWith key token read = .error .tampered ↔
        ∃ b, Denotes token b ∧ ¬ b.IsAuthentic key) ∧
      (openWith key token read = .error .malformed ↔ ¬ ∃ b, Denotes token b)) ∧
    (∀ (nonce : Octets 12) (v : Json.Value) (token : String),
      OneEdit (sealJson key nonce v).toList token.toList →
      (∀ b, (Box.ofPlaintext key nonce (Utf8.encode v.render)).OneChange b →
        Denotes token b → b.open? key = none) →
      ∀ (α : Type) (read : List UInt8 → Option α),
        openWith key token read = .error .malformed ∨
          openWith key token read = .error .tampered) := by
  refine ⟨?_, fun token α read => ⟨opened_iff read, tampered_iff read, malformed_iff read⟩, ?_⟩
  · intro token token' hne hform hform' heq
    obtain ⟨b, hb⟩ := denotes_of_not_malformed hform
    have hb' : Denotes token' b := ofChars?_iff_denotes.1 (heq ▸ ofChars?_iff_denotes.2 hb)
    exact hne (String.toList_inj.1 (hb.text.trans hb'.text.symm))
  · intro nonce v token hedit hforge α read
    -- an edit leaves no token at all, or one of a box that differs in one part
    by_cases hd : ∃ b, Denotes token b
    · obtain ⟨b, hb⟩ := hd
      have hchange : (Box.ofPlaintext key nonce (Utf8.encode v.render)).OneChange b := by
        rw [sealJson, String.toList_ofList] at hedit
        exact oneChange_of_edit (dot_not_mem_segment _) hedit hb
      have htag := Box.open?_eq_none_iff.1 (hforge b hchange hb)
      exact .inr (openWith_of_not_authentic hb htag read)
    · exact .inl (openWith_of_not_denotes hd read)

theorem retagged_is_refused :
    openJson ⟨List.replicate 32 7, rfl⟩
        (retagged ⟨List.replicate 32 7, rfl⟩ ⟨List.replicate 12 1, rfl⟩
          (LoginState.toJson ⟨"oidc", none, "n"⟩)) LoginState.ofJson? = .error .malformed ∨
      openJson ⟨List.replicate 32 7, rfl⟩
        (retagged ⟨List.replicate 32 7, rfl⟩ ⟨List.replicate 12 1, rfl⟩
          (LoginState.toJson ⟨"oidc", none, "n"⟩)) LoginState.ofJson? = .error .tampered :=
  (not_malleable ⟨List.replicate 32 7, rfl⟩).2.2 ⟨List.replicate 12 1, rfl⟩
    (LoginState.toJson ⟨"oidc", none, "n"⟩) _ (oneEdit_retagged _ _ _)
    (fun _ _ hb => open?_retagged hb) LoginState _

end Token

end AuthGateway
