import AuthGateway.Proofs.Addresses
import AuthGateway.Proofs.Domain

/-!
Hosts that are read again. The text of an address names the address, and that of a
domain the domain, unless a label of it is too long to be decoded.
-/
namespace AuthGateway

namespace Url

/-! Texts that stand for themselves in a domain. -/

/-- A character that no step changes and no rule of labels is about. -/
structure IsQuiet (c : Char) : Prop where
  plain : Mapping.IsPlain c.toNat
  lone : Composition.IsLone c.toNat
  notMark : isMark c = false
  notJoiner : c ≠ joiner ∧ c ≠ nonJoiner
  notRightToLeft : Direction.of c ≠ .right ∧ Direction.of c ≠ .arabicDigit

theorem isQuiet_of_ascii {c : Char} (h : c.toNat < 128) (hcapital : ¬ (0x41 ≤ c.toNat ∧ c.toNat ≤ 0x5A)) :
    IsQuiet c := by
  have hmarks : marks.avoids 0 127 = true := by decide +kernel
  refine ⟨Mapping.isPlain_of_ascii h hcapital, Composition.isLone_of_ascii h, ?_, ?_, ?_⟩
  · rw [isMark, CodeTable.contains, CodeTable.find?_eq_none_of_avoids hmarks (by omega),
      Option.isSome_none]
  · constructor <;> rintro rfl <;> exact absurd h (by decide)
  · rw [Direction.of, if_pos h]
    split
    · decide
    · split <;> decide

namespace Label

variable {p : List Char} {l : Label}

theorem areJoinersPlaced_of_quiet (h : ∀ c ∈ p, IsQuiet c) (reversed : List Char) :
    areJoinersPlaced reversed p = true := by
  induction p generalizing reversed with
  | nil => rfl
  | cons c p ih =>
      obtain ⟨hc, hp⟩ := List.forall_mem_cons.1 h
      rw [areJoinersPlaced, if_neg hc.notJoiner.1, if_neg hc.notJoiner.2, ih hp, Bool.true_and]

theorem isWellFormed_of_quiet (h : ∀ c ∈ l.text, IsQuiet c) : l.isWellFormed = true := by
  have hmark : l.text.head?.any isMark = false := by
    cases htext : l.text with
    | nil => rfl
    | cons c rest => exact (h c (htext ▸ List.mem_cons_self)).notMark
  rw [isWellFormed, hmark, areJoinersPlaced_of_quiet h]
  rfl

theorem hasRightToLeft_of_quiet (h : ∀ c ∈ p, IsQuiet c) : hasRightToLeft p = false := by
  rw [hasRightToLeft, List.any_eq_false]
  intro c hc
  simpa using (h c hc).notRightToLeft

theorem text_of_unmarked (hmark : ¬ mark <+: p) (h : ofChars? p = some l) : l.text = p := by
  rcases ofChars?_cases h with ⟨hp, -⟩ | ⟨-, -, rfl⟩ | ⟨-, -, rfl⟩
  · exact absurd hp hmark
  · rfl
  · rfl

theorem not_marked (h : 'x' ∉ p) : ¬ mark <+: p :=
  fun hmark => h (hmark.subset (by decide))

theorem ofChars?_of_ascii (hmark : ¬ mark <+: p) (h : isAscii p = true) :
    ofChars? p = some ⟨p, p⟩ := by
  rw [ofChars?, if_neg fun hp => hmark (List.isPrefixOf_iff_prefix.1 hp), if_pos h]

end Label

namespace Domain

/-- The rules of labels have nothing to say about quiet text. -/
theorem ascii?_of_quiet {cs : List Char} {labels : List Label} (h : ∀ c ∈ cs, IsQuiet c)
    (hmark : ∀ p ∈ Split.pieces '.' cs, ¬ Label.mark <+: p)
    (hlabels : (Split.pieces '.' cs).mapM Label.ofChars? = some labels)
    (hname : ∀ c ∈ Split.join ['.'] (labels.map Label.ascii), isForbidden c = false) :
    ascii? cs = some (Split.join ['.'] (labels.map Label.ascii)) := by
  have htext : ∀ l ∈ labels, ∀ c ∈ l.text, IsQuiet c := by
    intro l hl c hc
    obtain ⟨p, hp, hofChars⟩ := exists_of_mem_parts hlabels l hl
    rw [Label.text_of_unmarked (hmark p hp) hofChars] at hc
    exact h c (Split.mem_of_mem_pieces hp hc).1
  have hwell : areWellFormed labels = true := by
    have hall : labels.all Label.isWellFormed = true :=
      List.all_eq_true.2 fun l hl => Label.isWellFormed_of_quiet (htext l hl)
    have hright : labels.any (fun l => hasRightToLeft l.text) = false :=
      List.any_eq_false.2 fun l hl => by simp [Label.hasRightToLeft_of_quiet (htext l hl)]
    rw [areWellFormed, hall, hright]
    rfl
  have hallowed : (Split.join ['.'] (labels.map Label.ascii)).any isForbidden = false :=
    List.any_eq_false.2 fun c hc => by simp [hname c hc]
  simp only [ascii?, Mapping.text?_of_isPlain fun c hc => (h c hc).plain,
    Composition.compose_of_lone fun c hc => (h c hc).lone, hlabels, hwell, hallowed,
    Option.bind_eq_bind, Option.bind_some]
  rfl

theorem not_forbidden {c : Char} (h : 128 ≤ c.toNat ∨ Punycode.IsDigitChar c) :
    isForbidden c = false := by
  have hnone : ∀ d ∈ "%#/:<>?@[\\]^|".toList, ¬ (128 ≤ d.toNat ∨ Punycode.IsDigitChar d) := by
    simp [Punycode.IsDigitChar]
  have hmem : "%#/:<>?@[\\]^|".toList.contains c = false := by
    rw [← Bool.not_eq_true, List.contains_iff_mem]
    exact fun hm => hnone c hm h
  unfold Punycode.IsDigitChar at h
  have hlow : decide (c.toNat ≤ 0x20) = false := decide_eq_false (by omega)
  have hdelete : (c.toNat == 0x7F) = false := beq_eq_false_iff_ne.2 (by omega)
  rw [isForbidden, hlow, hdelete, hmem]
  rfl

/-- An address in its decimal form stands for itself. -/
theorem ascii?_ipv4 (address : UInt32) : ascii? (Ipv4.chars address) = some (Ipv4.chars address) := by
  have hpiece : ∀ p ∈ Split.pieces '.' (Ipv4.chars address), ∀ c ∈ p,
      48 ≤ c.toNat ∧ c.toNat ≤ 57 := by
    intro p hp c hc
    rw [Ipv4.pieces_chars] at hp
    obtain ⟨n, -, rfl⟩ := List.mem_map.1 hp
    exact Decimal.toNat_of_mem_natChars hc
  have hmark : ∀ p ∈ Split.pieces '.' (Ipv4.chars address), ¬ Label.mark <+: p := fun p hp =>
    Label.not_marked fun hx => absurd (hpiece p hp 'x' hx) (by decide)
  have hascii : ∀ p ∈ Split.pieces '.' (Ipv4.chars address), Label.isAscii p = true := by
    intro p hp
    refine List.all_eq_true.2 fun c hc => decide_eq_true ?_
    have := hpiece p hp c hc
    omega
  have hchar : ∀ c ∈ Ipv4.chars address, c = '.' ∨ 48 ≤ c.toNat ∧ c.toNat ≤ 57 := by
    intro c hc
    rw [← Split.join_pieces '.' (Ipv4.chars address)] at hc
    rcases Split.mem_join hc with hdot | ⟨p, hp, hc⟩
    · exact .inl (List.mem_singleton.1 hdot)
    · exact .inr (hpiece p hp c hc)
  have hlabels : (Split.pieces '.' (Ipv4.chars address)).mapM Label.ofChars? =
      some ((Split.pieces '.' (Ipv4.chars address)).map fun p => ⟨p, p⟩) := by
    rw [mapM_eq_some_iff, List.map_map]
    exact List.map_congr_left fun p hp => Label.ofChars?_of_ascii (hmark p hp) (hascii p hp)
  have hname : Split.join ['.'] (((Split.pieces '.' (Ipv4.chars address)).map fun p =>
      (⟨p, p⟩ : Label)).map Label.ascii) = Ipv4.chars address := by
    rw [List.map_map]
    exact (congrArg _ (List.map_id _)).trans (Split.join_pieces '.' _)
  have hquiet : ∀ c ∈ Ipv4.chars address, IsQuiet c := by
    intro c hc
    rcases hchar c hc with rfl | hdigit
    · exact isQuiet_of_ascii (by decide) (by decide)
    · exact isQuiet_of_ascii (by omega) (by omega)
  have hallowed : ∀ c ∈ Ipv4.chars address, isForbidden c = false := by
    intro c hc
    rcases hchar c hc with rfl | hdigit
    · decide
    · exact not_forbidden (.inr (.inr hdigit))
  -- labels of digits stay as they are, so that joining them gives the address again
  have h := ascii?_of_quiet hquiet hmark hlabels (by rwa [hname])
  rwa [hname] at h

end Domain

/-! Hosts. -/

namespace Host

variable {cs name : List Char} {host : Host}

/-- A text without escapes and brackets is read as it stands. -/
theorem special_of_allowed (h : ∀ c ∈ cs, Domain.isForbidden c = false) :
    special cs =
      match Domain.ascii? cs with
      | none => .error .invalidDomain
      | some [] => .error .emptyHost
      | some name =>
        if Ipv4.endsInNumber name then
          match Ipv4.ofChars? name with
          | some address => .ok (.ipv4 address)
          | none => .error .invalidIpv4
        else .ok (.domain name) := by
  have hpercent : '%' ∉ cs := fun hm => absurd (h '%' hm) (by decide)
  rewrite [special, Percent.decode_encodeChars hpercent, Utf8.decodeChars?_encodeChars,
    Option.bind_some]
  · rfl
  · rintro inside rfl
    exact absurd (h '[' List.mem_cons_self) (by decide)

theorem special_of_ascii? (h : ∀ c ∈ cs, Domain.isForbidden c = false)
    (hname : Domain.ascii? cs = some name) (hne : name ≠ []) :
    special cs =
      if Ipv4.endsInNumber name then
        match Ipv4.ofChars? name with
        | some address => .ok (.ipv4 address)
        | none => .error .invalidIpv4
      else .ok (.domain name) := by
  rw [special_of_allowed h, hname]
  obtain ⟨c, rest, rfl⟩ := List.exists_cons_of_ne_nil hne
  rfl

/-- No label of the host is too long to be decoded. An address has no labels. -/
def HasShortLabels : Host → Prop
  | .domain name => Domain.HasShortLabels name
  | .ipv4 _ => True
  | .ipv6 _ => True

instance (host : Host) : Decidable host.HasShortLabels :=
  match host with
  | .domain name => inferInstanceAs (Decidable (Domain.HasShortLabels name))
  | .ipv4 _ => inferInstanceAs (Decidable True)
  | .ipv6 _ => inferInstanceAs (Decidable True)

/-- A host is read again from its text unless it has a label that is too long. -/
theorem special_chars (h : special cs = .ok host) :
    special host.chars = if host.HasShortLabels then .ok host else .error .invalidDomain := by
  rcases special_cases h with ⟨inside, groups, rfl, hread⟩ | ⟨address, rfl⟩ |
    ⟨ds, name, rfl, hread, hne, hnumber⟩
  · have hlast : (Ipv6.chars groups ++ [']']).getLast? = some ']' := List.getLast?_concat
    rw [chars, special, bracketed, if_pos hlast, List.dropLast_concat,
      Ipv6.ofChars?_chars (Ipv6.isAddress_of_ofChars? hread)]
    rfl
  · have hread := Domain.ascii?_ipv4 address
    rw [chars, special_of_ascii? (Domain.not_forbidden_of_ascii? hread) hread
      (isHostText_ipv4 address).nonempty, if_pos (Ipv4.endsInNumber_chars address),
      Ipv4.ofChars?_chars]
    rfl
  · have hallowed := Domain.not_forbidden_of_ascii? hread
    have hagain := Domain.ascii?_ascii? hread
    rw [chars]
    split at hagain
    · next hshort =>
        have hshort : (Host.domain name).HasShortLabels := hshort
        rw [if_pos hshort, special_of_ascii? hallowed hagain hne, hnumber, if_neg Bool.false_ne_true]
    · next hlong =>
        have hlong : ¬ (Host.domain name).HasShortLabels := hlong
        rw [if_neg hlong, special_of_allowed hallowed, hagain]

end Host

end Url

end AuthGateway
