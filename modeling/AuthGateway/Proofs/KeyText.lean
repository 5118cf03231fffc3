import AuthGateway.Key
import AuthGateway.Proofs.Base64
import AuthGateway.Proofs.Text

/-!
Which text is which key. A key has two spellings, padded standard base64 and base64url
without padding, and white space around them does not count. No other text is a key, no
text is two keys, and an error says what is wrong with the text.
-/
namespace AuthGateway

theorem Octets.ofList?_eq_none_iff {n : Nat} {bytes : List UInt8} :
    (Octets.ofList? bytes : Option (Octets n)) = none ↔ bytes.length ≠ n := by
  unfold ofList?
  split
  · next h => exact iff_of_false (Option.some_ne_none _) fun hne => hne h
  · next h => exact iff_of_true rfl h

theorem Base64.isBlank_of_mem_encodeStandard {bytes : List UInt8} :
    ∀ c ∈ Base64.encodeWith Base64.standard ['='] bytes, Blank.isBlank c = false :=
  Base64.forall_mem_encodeWith (P := (Blank.isBlank · = false)) (by decide)
    (List.forall_mem_singleton.2 rfl) bytes

namespace Key

variable {text : String} {bytes bytes' : List UInt8}

/-- White space around it aside, the text is one of the two spellings of some bytes. -/
def Spells (text : String) (bytes : List UInt8) : Prop :=
  String.ofList (Blank.trimChars text.toList) = Base64.encodeStandard bytes ∨
    String.ofList (Blank.trimChars text.toList) = Base64.encodeUrl bytes

def ReadError.IsDue (text : String) : ReadError → Prop
  | .notBase64 => ∀ bytes, ¬ Spells text bytes
  | .wrongLength n => n ≠ 32 ∧ ∃ bytes, bytes.length = n ∧ Spells text bytes

/-- The bytes that a text spells, if it does, are the ones that are read. -/
theorem spells_iff :
    Spells text bytes ↔
      ((Base64.decodePadded? Base64.standard (Blank.trimChars text.toList)).orElse fun _ =>
        Base64.decodePlain? Base64.urlSafe (Blank.trimChars text.toList)) = some bytes := by
  rw [Base64.decodeEither_eq_some_iff, Spells, Base64.encodeStandard, Base64.encodeUrl,
    String.ofList_inj, String.ofList_inj]

theorem Spells.unique (h : Spells text bytes) (h' : Spells text bytes') : bytes = bytes' := by
  rw [spells_iff] at h h'
  exact Option.some.inj (h.symm.trans h')

theorem ofText_of_spells (h : Spells text bytes) :
    ofText text =
      (Octets.ofList? bytes).elim (.error (.wrongLength bytes.length)) .ok := by
  rw [spells_iff] at h
  simp only [ofText, h]
  cases Octets.ofList? bytes with
  | none => rfl
  | some key => rfl

theorem ofText_of_not_spells (h : ∀ bytes, ¬ Spells text bytes) :
    ofText text = .error .notBase64 := by
  have hnone := Option.eq_none_iff_forall_ne_some.2 fun bytes => mt spells_iff.2 (h bytes)
  rw [ofText, hnone]

/-- A text is read as the key that it spells, or there is an error that is due. -/
theorem ofText_cases (text : String) :
    (∃ key : Key, ofText text = .ok key ∧ Spells text key.toList) ∨
      ∃ e : ReadError, ofText text = .error e ∧ e.IsDue text := by
  -- the length is looked at only once the text spells some bytes
  by_cases hspells : ∃ bytes, Spells text bytes
  · obtain ⟨bytes, hbytes⟩ := hspells
    rw [ofText_of_spells hbytes]
    cases hkey : (Octets.ofList? bytes : Option Key) with
    | none =>
        exact .inr ⟨.wrongLength bytes.length, rfl, Octets.ofList?_eq_none_iff.1 hkey, bytes, rfl,
          hbytes⟩
    | some key =>
        refine .inl ⟨key, rfl, ?_⟩
        rwa [← Octets.ofList?_eq_some_iff.1 hkey]
  · have hnone := not_exists.1 hspells
    exact .inr ⟨.notBase64, ofText_of_not_spells hnone, hnone⟩

theorem ofText_eq_ok_iff {key : Key} : ofText text = .ok key ↔ Spells text key.toList := by
  constructor
  · intro h
    rcases ofText_cases text with ⟨found, hfound, hspells⟩ | ⟨e, he, -⟩
    · rw [h] at hfound
      cases hfound
      exact hspells
    · rw [h] at he
      cases he
  · intro h
    rw [ofText_of_spells h, Octets.ofList?_toList, Option.elim_some]

theorem ofText_eq_error_iff {e : ReadError} : ofText text = .error e ↔ e.IsDue text := by
  constructor
  · intro h
    rcases ofText_cases text with ⟨found, hfound, -⟩ | ⟨e', he', hdue⟩
    · rw [h] at hfound
      cases hfound
    · rw [h] at he'
      cases he'
      exact hdue
  · intro h
    cases e with
    | notBase64 => exact ofText_of_not_spells h
    | wrongLength n =>
        obtain ⟨hlength, bytes, rfl, hbytes⟩ := h
        rw [ofText_of_spells hbytes, Octets.ofList?_eq_none_iff.2 hlength, Option.elim_none]

theorem spells_toText (key : Key) : Spells key.toText key.toList := by
  refine .inl ?_
  rw [toText, Base64.encodeStandard, String.toList_ofList, Blank.trimChars,
    Blank.trimBy_of_forall Base64.isBlank_of_mem_encodeStandard]

/-- A text is read as a key exactly if it is one of the two spellings of this key, and any
other text is an error that says why. No text spells two keys, and a key that is written is
read again. -/
theorem keys_have_two_spellings :
    (∀ text key, ofText text = .ok key ↔ Spells text key.toList) ∧
    (∀ text, (∀ key : Key, ¬ Spells text key.toList) →
      ∃ e : ReadError, ofText text = .error e ∧ e.IsDue text) ∧
    (∀ text (key key' : Key), Spells text key.toList → Spells text key'.toList → key = key') ∧
    ∀ key, ofText (toText key) = .ok key := by
  refine ⟨?read, ?others, ?unique, ?undone⟩
  case read =>
    intro text key
    exact ofText_eq_ok_iff
  case others =>
    intro text h
    cases hread : ofText text with
    | ok key => exact absurd (ofText_eq_ok_iff.1 hread) (h key)
    | error e => exact ⟨e, rfl, ofText_eq_error_iff.1 hread⟩
  case unique =>
    intro text key key' h h'
    exact Octets.ext (h.unique h')
  case undone =>
    intro key
    exact ofText_eq_ok_iff.2 key.spells_toText

end Key

end AuthGateway
