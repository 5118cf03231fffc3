import AuthGateway.Proofs.CleanUrl
import AuthGateway.Proofs.HostReading

/-!
Labels that are encoded and not decoded. Where the characters of a label lie far from
each other most of them take three digits, so that a label which is short enough to be
encoded may be too long to be decoded.
-/
namespace AuthGateway

namespace Url.Punycode

/-! The lengths of distances. -/

variable {basic m q gap few : Nat} {w : State} {xs label : List Char}

/-- Two digits are not enough for a distance this large, whatever the thresholds are. -/
theorem three_le_length_distanceChars (hq : 911 ≤ q) (place bias n : Nat) :
    3 ≤ (distanceChars q place bias (n + 3)).length := by
  obtain ⟨hpos, hsmall⟩ := threshold_bounds place bias
  have hsmall' := (threshold_bounds (place + 36) bias).2
  have hrest : 26 ≤ (q - threshold place bias) / (36 - threshold place bias) :=
    (Nat.le_div_iff_mul_le (by omega)).2 (by omega)
  have hlast := List.length_pos_iff.2 (distanceChars_ne_nil
    (((q - threshold place bias) / (36 - threshold place bias) - threshold (place + 36) bias) /
      (36 - threshold (place + 36) bias)) (place + 36 + 36) bias n)
  rw [distanceChars, if_neg (by omega), List.length_cons, distanceChars, if_neg (by omega),
    List.length_cons]
  omega

theorem three_le_length_pass (hm : ∃ c ∈ xs, c.toNat = m) (hw : 911 ≤ w.delta) :
    3 ≤ (pass basic m w xs).1.length := by
  induction xs generalizing w with
  | nil => simp at hm
  | cons c xs ih =>
      obtain ⟨d, hd, hdm⟩ := hm
      have hmem (hc : c.toNat ≠ m) : ∃ c ∈ xs, c.toNat = m := by
        rcases List.mem_cons.1 hd with rfl | hd
        · exact absurd hdm hc
        · exact ⟨d, hd, hdm⟩
      rcases Nat.lt_trichotomy c.toNat m with hlt | heq | hgt
      · rw [pass_cons_of_lt _ hlt]
        exact ih (hmem (Nat.ne_of_lt hlt)) (Nat.le_succ_of_le hw)
      · rw [pass_cons_of_eq _ heq, List.length_append]
        exact Nat.le_add_right_of_le (three_le_length_distanceChars hw 36 w.bias 37)
      · rw [pass_cons_of_gt _ hgt]
        exact ih (hmem (Nat.ne_of_gt hgt)) hw

theorem count_pass (w : State) (xs : List Char) :
    (pass basic m w xs).2.count = w.count + (xs.filter (·.toNat = m)).length := by
  induction xs generalizing w with
  | nil => rfl
  | cons c xs ih =>
      rcases Nat.lt_trichotomy c.toNat m with hlt | heq | hgt
      · rw [pass_cons_of_lt _ hlt, ih, List.filter_cons_of_neg (by simpa using Nat.ne_of_lt hlt)]
      · rw [pass_cons_of_eq _ heq]
        dsimp only
        rw [ih, List.filter_cons_of_pos (by simpa using heq), List.length_cons, State.written]
        dsimp only
        omega
      · rw [pass_cons_of_gt _ hgt, ih, List.filter_cons_of_neg (by simpa using Nat.ne_of_gt hgt)]

/-! The lengths of labels. -/

/-- Characters of which no two are the same, and more than a gap apart. -/
structure IsSparse (gap : Nat) (label : List Char) : Prop where
  nodup : label.Nodup
  apart : ∀ c ∈ label, ∀ d ∈ label, c.toNat < d.toNat → c.toNat + gap < d.toNat

/-- What is left behind the least character that was left. -/
theorem length_left {next : Nat} {c : Char} (hnodup : label.Nodup) (hc : c ∈ label)
    (hnext : next ≤ c.toNat) (hleft : ∀ d ∈ label, d.toNat < next ∨ c.toNat ≤ d.toNat) :
    (label.filter (next ≤ ·.toNat)).length =
      (label.filter (c.toNat + 1 ≤ ·.toNat)).length + 1 := by
  have hrest : (label.erase c).filter (next ≤ ·.toNat) =
      label.filter (c.toNat + 1 ≤ ·.toNat) := by
    rw [hnodup.erase_eq_filter, List.filter_filter]
    refine List.filter_congr fun d hd => ?_
    have := hleft d hd
    rw [Bool.eq_iff_iff, Bool.and_eq_true, bne_iff_ne, ne_eq, ← Char.toNat_inj, decide_eq_true_eq,
      decide_eq_true_eq]
    omega
  rw [← hrest, (List.perm_cons_erase hc).filter _ |>.length_eq, List.filter_cons_of_pos (by simpa),
    List.length_cons]

theorem length_here {c : Char} (hnodup : label.Nodup) (hc : c ∈ label) :
    (label.filter (·.toNat = c.toNat)).length = 1 := by
  have hsame : label.filter (·.toNat = c.toNat) = label.filter (· == c) :=
    List.filter_congr fun d _ => by
      rw [Bool.eq_iff_iff, decide_eq_true_eq, beq_iff_eq, Char.toNat_inj]
  rw [hsame, ← List.count_eq_length_filter, hnodup.count, if_pos hc]

/-- One character after the other is written, and all but a few of them with three
digits. -/
theorem le_length_encodeFrom (h : IsSparse gap label) (hfew : 911 ≤ gap * (few + 1)) {n : Nat}
    (hnext : ∀ c ∈ label, c.toNat < w.next ∨ w.next + gap ≤ c.toNat)
    (hn : (label.filter (w.next ≤ ·.toNat)).length ≤ n) :
    3 * (label.filter (w.next ≤ ·.toNat)).length ≤
      (encodeFrom basic label w n).length + 3 * (few - w.count) := by
  induction n generalizing w with
  | zero =>
      rw [Nat.le_zero.1 hn]
      exact Nat.zero_le _
  | succ n ih =>
      rw [encodeFrom]
      split
      · next hnone =>
          rw [List.min?_eq_none_iff, List.filter_map, List.map_eq_nil_iff] at hnone
          have hnone : label.filter (w.next ≤ ·.toNat) = [] := hnone
          rw [hnone]
          exact Nat.zero_le _
      · next m hm =>
          obtain ⟨hle, ⟨c, hc, rfl⟩, hleft⟩ := min?_of_left hm
          let start : State := { w with delta := w.delta + (c.toNat - w.next) * (w.count + 1) }
          let after : State := (pass basic c.toNat start label).2
          have hcount : after.count = w.count + 1 :=
            (count_pass start label).trans (congrArg _ (length_here h.nodup hc))
          have hrest := length_left h.nodup hc hle hleft
          have hgap : ∀ d ∈ label, d.toNat < c.toNat + 1 ∨ c.toNat + 1 + gap ≤ d.toNat := by
            intro d hd
            have := h.apart c hc d hd
            omega
          have ih := @ih { after with next := c.toNat + 1, delta := after.delta + 1 } hgap
            (by dsimp only; omega)
          -- Once a few characters are written, one gap is worth enough steps for three digits.
          have hout : few ≤ w.count → 3 ≤ (pass basic c.toNat start label).1.length := by
            intro hmany
            have hdelta : gap * (few + 1) ≤ (c.toNat - w.next) * (w.count + 1) := by
              have := hnext c hc
              exact Nat.mul_le_mul (by omega) (by omega)
            exact three_le_length_pass ⟨c, hc, rfl⟩
              (Nat.le_trans hfew (Nat.le_trans hdelta (Nat.le_add_left _ _)))
          dsimp only at ih
          show _ ≤ ((pass basic c.toNat start label).1 ++ encodeFrom basic label
            { after with next := c.toNat + 1, delta := after.delta + 1 } n).length + _
          rw [List.length_append]
          omega

/-- Where characters lie far apart, the encoded label has nearly three times as many. -/
theorem le_length_encode (h : IsSparse gap label) (hfew : 911 ≤ gap * (few + 1))
    (hlabel : ∀ c ∈ label, 128 + gap ≤ c.toNat) :
    3 * label.length ≤ (encode label).length + 3 * few := by
  have hlarge : label.filter (128 ≤ ·.toNat) = label :=
    List.filter_eq_self.2 fun c hc => by simpa using Nat.le_of_add_right_le (hlabel c hc)
  have hlength := @le_length_encodeFrom (label.filter (·.toNat < 128)).length gap few (.start label)
    label h hfew label.length (fun c hc => .inr (hlabel c hc)) (List.length_filter_le _ _)
  have hleft : label.filter ((State.start label).next ≤ ·.toNat) = label := hlarge
  rw [hleft] at hlength
  rw [encode_eq, List.length_append]
  omega

end Url.Punycode

namespace Composition

variable {low high n : Nat}

/-- Characters that the table of pairs has nothing to do with. -/
theorem isLone_of_avoids (hpairs : pairs.avoids low high = true)
    (hseconds : pairs.ranges.toList.all (fun r => r.value.2 < low || high < r.value.2) = true)
    (hclasses : combiningClasses.avoids low high = true) (hn : low ≤ n ∧ n ≤ high)
    (hsyllable : isSyllable n = false) (hjamo : ¬ IsJamo n) : IsLone n where
  letter := by
    refine ⟨hsyllable, ?_⟩
    rw [← pairOf?_eq_none_iff, pairOf?, CodeTable.find?_eq_none_of_avoids hpairs hn, Option.map_none]
  classZero := combiningClass_of_avoids hclasses hn
  alone a := by
    refine composite?_eq_none_of_second hjamo fun c hc => ?_
    obtain ⟨r, hr, -, -, hvalue, -⟩ := mem_pairs_of_pairOf? hc
    have hsecond := List.all_eq_true.1 hseconds r (Array.mem_toList_iff.2 hr)
    simp only [hvalue, Bool.or_eq_true, decide_eq_true_eq] at hsecond
    omega

end Composition

namespace Url

/-! Ideographs. -/

def IsIdeograph (n : Nat) : Prop :=
  0x4E00 ≤ n ∧ n ≤ 0x9FFF

instance (n : Nat) : Decidable (IsIdeograph n) :=
  inferInstanceAs (Decidable (_ ∧ _))

theorem isPlain_of_isIdeograph {n : Nat} (h : IsIdeograph n) : Mapping.IsPlain n := by
  have hrefused : Mapping.refused.avoids 0x4E00 0x9FFF = true := by decide +kernel
  have hignored : Mapping.ignored.avoids 0x4E00 0x9FFF = true := by decide +kernel
  have hreplaced : Mapping.replaced.avoids 0x4E00 0x9FFF = true := by decide +kernel
  unfold IsIdeograph at h
  exact Mapping.isPlain_iff.2 ⟨by omega, CodeTable.not_covers_of_avoids hrefused h,
    CodeTable.not_covers_of_avoids hignored h, CodeTable.not_covers_of_avoids hreplaced h⟩

theorem isLone_of_isIdeograph {n : Nat} (h : IsIdeograph n) : Composition.IsLone n := by
  have hpairs : Composition.pairs.avoids 0x4E00 0x9FFF = true := by decide +kernel
  have hseconds : Composition.pairs.ranges.toList.all
      (fun r => r.value.2 < 0x4E00 || 0x9FFF < r.value.2) = true := by decide +kernel
  have hclasses : combiningClasses.avoids 0x4E00 0x9FFF = true := by decide +kernel
  unfold IsIdeograph at h
  refine Composition.isLone_of_avoids hpairs hseconds hclasses h ?_ ?_
  · exact Composition.not_isSyllable_iff.2 (by omega)
  · unfold Composition.IsJamo
    omega

theorem isQuiet_of_isIdeograph {c : Char} (h : IsIdeograph c.toNat) : IsQuiet c := by
  have hmarks : marks.avoids 0x4E00 0x9FFF = true := by decide +kernel
  have hdirections : Direction.table.avoids 0x4E00 0x9FFF = true := by decide +kernel
  refine ⟨isPlain_of_isIdeograph h, isLone_of_isIdeograph h, ?_, ?_, ?_⟩
  · rw [isMark, CodeTable.contains, CodeTable.find?_eq_none_of_avoids hmarks h, Option.isSome_none]
  · constructor <;> rintro rfl <;> exact absurd h (by decide)
  · have hlarge : ¬ c.toNat < 128 := by
      unfold IsIdeograph at h
      omega
    rw [Direction.of, if_neg hlarge, CodeTable.find?_eq_none_of_avoids hdirections h]
    decide

section Domains

variable {cs : List Char} (h : ∀ c ∈ cs, IsIdeograph c.toNat)

include h

theorem ofChars?_ideographs (hne : cs ≠ []) (hlength : cs.length ≤ Label.encodingLimit) :
    Label.ofChars? cs = some ⟨cs, Label.mark ++ Punycode.encode cs⟩ := by
  have hmark : ¬ Label.mark.isPrefixOf cs = true := by
    rw [List.isPrefixOf_iff_prefix]
    exact Label.not_marked fun hx => absurd (h 'x' hx) (by decide)
  have hascii : ¬ Label.isAscii cs = true := by
    obtain ⟨c, rest, rfl⟩ := List.exists_cons_of_ne_nil hne
    intro hascii
    have hsmall := of_decide_eq_true (List.all_eq_true.1 hascii c List.mem_cons_self)
    have hlarge := (h c List.mem_cons_self).1
    omega
  rw [Label.ofChars?, if_neg hmark, if_neg hascii, if_neg (Nat.not_lt.2 hlength)]

theorem mem_encode_ideographs {c : Char} (hc : c ∈ Label.mark ++ Punycode.encode cs) :
    c = '-' ∨ Punycode.IsDigitChar c := by
  rcases List.mem_append.1 hc with hc | hc
  · have hmark : ∀ c ∈ Label.mark, c = '-' ∨ Punycode.IsDigitChar c := by
      simp [Label.mark, Punycode.IsDigitChar]
    exact hmark c hc
  · rcases Punycode.mem_encode hc with ⟨hmem, hsmall⟩ | hc
    · have hlarge := (h c hmem).1
      omega
    · exact hc

theorem not_forbidden_encode_ideographs :
    ∀ c ∈ Label.mark ++ Punycode.encode cs, Domain.isForbidden c = false := by
  intro c hc
  rcases mem_encode_ideographs h hc with rfl | hdigit
  · decide
  · exact Domain.not_forbidden (.inr hdigit)

theorem pieces_encode_ideographs : Split.pieces '.' (Label.mark ++ Punycode.encode cs) =
    [Label.mark ++ Punycode.encode cs] := by
  refine Split.pieces_of_not_mem fun hdot => ?_
  rcases mem_encode_ideographs h hdot with heq | hdigit
  · exact absurd heq (by decide)
  · exact absurd hdigit (by decide)

/-- A domain of ideographs is the mark and their encoding. -/
theorem ascii?_ideographs (hne : cs ≠ []) (hlength : cs.length ≤ Label.encodingLimit) :
    Domain.ascii? cs = some (Label.mark ++ Punycode.encode cs) := by
  have hdot : '.' ∉ cs := fun hm => absurd (h '.' hm) (by decide)
  have hpieces : Split.pieces '.' cs = [cs] := Split.pieces_of_not_mem hdot
  have hlabels : (Split.pieces '.' cs).mapM Label.ofChars? =
      some [⟨cs, Label.mark ++ Punycode.encode cs⟩] := by
    rw [hpieces, mapM_eq_some_iff]
    exact congrArg (· :: []) (ofChars?_ideographs h hne hlength)
  have hmark : ∀ p ∈ Split.pieces '.' cs, ¬ Label.mark <+: p := by
    rw [hpieces]
    intro p hp
    rw [List.mem_singleton.1 hp]
    exact Label.not_marked fun hx => absurd (h 'x' hx) (by decide)
  exact Domain.ascii?_of_quiet (fun c hc => isQuiet_of_isIdeograph (h c hc)) hmark hlabels
    (not_forbidden_encode_ideographs h)

/-- A domain of ideographs that is short enough is encoded. -/
theorem Host.special_ideographs (hne : cs ≠ []) (hlength : cs.length ≤ Label.encodingLimit) :
    special cs = .ok (.domain (Label.mark ++ Punycode.encode cs)) := by
  have hallowed : ∀ c ∈ cs, Domain.isForbidden c = false := by
    intro c hc
    have hlarge := (h c hc).1
    exact Domain.not_forbidden (.inl (by omega))
  have hnumber : Ipv4.endsInNumber (Label.mark ++ Punycode.encode cs) = false := by
    have hparts : Ipv4.parts (Label.mark ++ Punycode.encode cs) =
        [Label.mark ++ Punycode.encode cs] := by
      rw [Ipv4.parts, pieces_encode_ideographs h]
      rfl
    rw [Ipv4.endsInNumber, hparts]
    rfl
  have hascii := ascii?_ideographs h hne hlength
  rw [special_of_ascii? hallowed hascii (List.append_ne_nil_of_left_ne_nil (by decide) _), hnumber,
    if_neg Bool.false_ne_true]

theorem isHostText_ideographs (hne : cs ≠ []) : Host.IsHostText cs := by
  have hdelimiters : ∀ d ∈ "/\\?#@:[]".toList, ¬ IsIdeograph d.toNat := by
    simp [IsIdeograph]
  refine .of_plain hne fun c hc => ⟨?_, fun hd => hdelimiters c hd (h c hc)⟩
  have hlarge := (h c hc).1
  omega

/-- The host of a site is read and encoded. -/
theorem parse_siteText_ideographs (hne : cs ≠ []) (hlength : cs.length ≤ Label.encodingLimit) :
    parse (siteText cs) = .ok (site (.domain (Label.mark ++ Punycode.encode cs))) := by
  rw [parse_siteText (isHostText_ideographs h hne), Host.special_ideographs h hne hlength]
  rfl

/-- The encoded form of a label is too long if enough characters lie far apart. -/
theorem not_hasShortLabels_of_sparse {gap few : Nat} (hsparse : Punycode.IsSparse gap cs) (hgap : gap ≤ 0x4D00)
    (hfew : 911 ≤ gap * (few + 1))
    (hlong : Label.decodingLimit + 3 * few < 3 * cs.length) :
    ¬ Domain.HasShortLabels (Label.mark ++ Punycode.encode cs) := by
  have hlength := Punycode.le_length_encode hsparse hfew fun c hc => by
    have hlarge := (h c hc).1
    omega
  intro hshort
  rw [Domain.HasShortLabels, pieces_encode_ideographs h] at hshort
  have hshort := hshort _ (List.mem_singleton_self _) (List.prefix_append _ _)
  rw [List.length_append] at hshort
  omega

end Domains

/-- Eight hundred ideographs, each the twenty-fifth behind the one in front of it. -/
def longLabel : List Char :=
  (List.range 800).map fun i => Char.ofNat (0x4E00 + 25 * i)

theorem exists_of_mem_longLabel {c : Char} (h : c ∈ longLabel) :
    ∃ i < 800, c.toNat = 0x4E00 + 25 * i := by
  obtain ⟨i, hi, rfl⟩ := List.mem_map.1 h
  have hi := List.mem_range.1 hi
  exact ⟨i, hi, Utf8.toNat_ofNat_of_valid (.inl (by omega))⟩

theorem isIdeograph_longLabel : ∀ c ∈ longLabel, IsIdeograph c.toNat := by
  intro c hc
  obtain ⟨i, hi, heq⟩ := exists_of_mem_longLabel hc
  unfold IsIdeograph
  omega

theorem isSparse_longLabel : Punycode.IsSparse 24 longLabel where
  nodup := by
    refine List.pairwise_map.2 (List.pairwise_lt_range.imp_of_mem fun {i j} hi hj hlt heq => ?_)
    have hi := List.mem_range.1 hi
    have hj := List.mem_range.1 hj
    rw [← Char.toNat_inj, Utf8.toNat_ofNat_of_valid (.inl (by omega)),
      Utf8.toNat_ofNat_of_valid (.inl (by omega))] at heq
    omega
  apart c hc d hd hlt := by
    obtain ⟨i, hi, hci⟩ := exists_of_mem_longLabel hc
    obtain ⟨j, hj, hdj⟩ := exists_of_mem_longLabel hd
    omega

theorem length_longLabel : longLabel.length = 800 := by
  rw [longLabel, List.length_map, List.length_range]

theorem longLabel_ne_nil : longLabel ≠ [] :=
  List.ne_nil_of_length_pos (by rw [length_longLabel]; decide)

theorem not_hasShortLabels_longLabel :
    ¬ Domain.HasShortLabels (Label.mark ++ Punycode.encode longLabel) :=
  not_hasShortLabels_of_sparse isIdeograph_longLabel isSparse_longLabel (by decide)
    (show 911 ≤ 24 * (37 + 1) by decide) (by rw [length_longLabel]; decide)

end Url

end AuthGateway
