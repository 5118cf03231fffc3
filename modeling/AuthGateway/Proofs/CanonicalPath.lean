import AuthGateway.Proofs.Segments

/-!
What a canonical path looks like. Its segments are written in visible characters
and none of them is a dot segment. Escapes that need not be there are undone in
one pass, so that the characters around an escape can form a new one; the
canonical path is free of them exactly if another pass leaves it as it is, and
always if every percent sign of the request begins an escape.
-/
namespace AuthGateway

namespace Route

open Percent (IsKept)
open Url.Escape (inPath)
open Url.Segments (IsDots IsResolved)

variable {cs ds : List Char}

/-! Undoing escapes. -/

theorem unescape?_of_plain {c : Char} (hc : c ≠ '%') (cs : List Char) :
    unescape? (c :: cs) = (unescape? cs).map (c :: ·) := by
  rw [unescape?]
  exact fun _ _ _ hpercent => absurd hpercent hc

theorem Settled.tail {c : Char} (h : Settled (c :: cs)) : Settled cs :=
  fun hi lo d hinfix he => h hi lo d (List.infix_cons hinfix) he

theorem settled_cons {c : Char} (h : Settled cs)
    (hfront : ∀ hi lo d, ['%', hi, lo] <+: c :: cs → escaped? hi lo = some d →
      staysEscaped d = true) : Settled (c :: cs) := by
  intro hi lo d hinfix he
  cases List.infix_cons_iff.1 hinfix with
  | inl hstart => exact hfront hi lo d hstart he
  | inr htail => exact h hi lo d htail he

theorem unescape?_of_settled (h : Settled cs) : unescape? cs = some cs := by
  fun_induction unescape? cs with
  | case1 => rfl
  | case2 hi lo rest c he hseparator =>
      have hstays := h hi lo c (List.prefix_append _ rest).isInfix he
      simp [staysEscaped, hseparator] at hstays
  | case3 hi lo rest c he _ hunreserved =>
      have hstays := h hi lo c (List.prefix_append _ rest).isInfix he
      simp [staysEscaped, hunreserved] at hstays
  | case4 hi lo rest c he _ _ ih => rw [ih h.tail, Option.map_some]
  | case5 hi lo rest he ih => rw [ih h.tail, Option.map_some]
  | case6 c rest _ ih => rw [ih h.tail, Option.map_some]

theorem length_cons_of_unescape? {c : Char}
    (ih : ∀ {es}, unescape? cs = some es →
      es.length ≤ cs.length ∧ (cs.length ≤ es.length → Settled cs))
    (h : (unescape? cs).map (c :: ·) = some ds)
    (hfront : ∀ hi lo d, ['%', hi, lo] <+: c :: cs → escaped? hi lo = some d →
      staysEscaped d = true) :
    ds.length ≤ (c :: cs).length ∧ ((c :: cs).length ≤ ds.length → Settled (c :: cs)) := by
  obtain ⟨es, hes, rfl⟩ := Option.map_eq_some_iff.1 h
  obtain ⟨hle, hsettled⟩ := ih hes
  refine ⟨Nat.succ_le_succ hle, fun hge => ?_⟩
  exact settled_cons (hsettled (Nat.le_of_succ_le_succ hge)) hfront

/-- Undoing an escape makes a text shorter. -/
theorem length_of_unescape? (h : unescape? cs = some ds) :
    ds.length ≤ cs.length ∧ (cs.length ≤ ds.length → Settled cs) := by
  fun_induction unescape? cs generalizing ds with
  | case1 =>
      obtain rfl := Option.some.inj h
      exact ⟨Nat.le_refl _, fun _ hi lo d hinfix => by simp at hinfix⟩
  | case2 => cases h
  | case3 hi lo rest c he _ _ ih =>
      obtain ⟨es, hes, rfl⟩ := Option.map_eq_some_iff.1 h
      -- three characters become one, so that the text is as long as before only if this never
      -- happens
      have hle := (ih hes).1
      simp only [List.length_cons]
      exact ⟨by omega, fun hge => by omega⟩
  | case4 hi lo rest c he hseparator hunreserved ih =>
      refine length_cons_of_unescape? ih h fun hi' lo' d hstart he' => ?_
      simp only [List.cons_prefix_cons, List.nil_prefix, and_true, true_and] at hstart
      rw [hstart.1, hstart.2, he] at he'
      cases he'
      simp [staysEscaped, hseparator, hunreserved]
  | case5 hi lo rest he ih =>
      refine length_cons_of_unescape? ih h fun hi' lo' d hstart he' => ?_
      simp only [List.cons_prefix_cons, List.nil_prefix, and_true, true_and] at hstart
      simp [hstart, he] at he'
  | case6 c rest hno ih =>
      refine length_cons_of_unescape? ih h fun hi lo d hstart _ => ?_
      obtain ⟨tail, htail⟩ := hstart
      simp only [List.cons_append, List.nil_append, List.cons.injEq] at htail
      exact absurd htail.2.symm (hno hi lo tail htail.1.symm)

theorem mem_cons_of_unescape? {c d : Char}
    (ih : ∀ {es}, unescape? cs = some es → d ∈ es → d ∈ cs ∨ isUnreserved d = true)
    (h : (unescape? cs).map (c :: ·) = some ds) (hd : d ∈ ds) :
    d ∈ c :: cs ∨ isUnreserved d = true := by
  obtain ⟨es, hes, rfl⟩ := Option.map_eq_some_iff.1 h
  cases List.mem_cons.1 hd with
  | inl hc => exact .inl (hc ▸ List.mem_cons_self)
  | inr hmem => exact (ih hes hmem).imp_left (List.mem_cons_of_mem _)

/-- Undoing escapes brings in no characters but those that need none. -/
theorem mem_of_unescape? {d : Char} (h : unescape? cs = some ds) (hd : d ∈ ds) :
    d ∈ cs ∨ isUnreserved d = true := by
  fun_induction unescape? cs generalizing ds with
  | case1 =>
      obtain rfl := Option.some.inj h
      exact .inl hd
  | case2 => cases h
  | case3 hi lo rest c he _ hunreserved ih =>
      obtain ⟨es, hes, rfl⟩ := Option.map_eq_some_iff.1 h
      cases List.mem_cons.1 hd with
      | inl hc => exact .inr (hc ▸ hunreserved)
      | inr hmem =>
          refine (ih hes hmem).imp_left fun hrest => ?_
          exact List.mem_cons_of_mem _ (List.mem_cons_of_mem _ (List.mem_cons_of_mem _ hrest))
  | case4 hi lo rest c he _ _ ih => exact mem_cons_of_unescape? ih h hd
  | case5 hi lo rest he ih => exact mem_cons_of_unescape? ih h hd
  | case6 c rest hno ih => exact mem_cons_of_unescape? ih h hd

/-! Texts in which every percent sign begins an escape. -/

/-- What is left of the escapes once some are undone is what stays escaped. -/
theorem WellEscaped.unescape? {ok : Char → Bool} (h : WellEscaped ok cs)
    (hd : unescape? cs = some ds) : WellEscaped staysEscaped ds := by
  induction h generalizing ds with
  | nil =>
      obtain rfl := Option.some.inj hd
      exact .nil
  | @plain c cs hc _ ih =>
      rw [unescape?_of_plain hc] at hd
      obtain ⟨es, hes, rfl⟩ := Option.map_eq_some_iff.1 hd
      exact .plain hc (ih hes)
  | @escape hi lo c cs he _ _ ih =>
      obtain ⟨hhi, hlo⟩ := ne_of_escaped? he (d := '%') (by decide)
      simp only [Route.unescape?, he] at hd
      split at hd
      · cases hd
      · next hseparator =>
          split at hd
          · next hunreserved =>
              obtain ⟨es, hes, rfl⟩ := Option.map_eq_some_iff.1 hd
              -- a percent sign needs its escape, so that none comes out of one
              refine .plain ?_ (ih hes)
              rintro rfl
              exact absurd hunreserved (by decide)
          · next hunreserved =>
              rw [unescape?_of_plain hhi, unescape?_of_plain hlo] at hd
              simp only [Option.map_map, Option.map_eq_some_iff] at hd
              obtain ⟨es, hes, rfl⟩ := hd
              exact .escape he (by simp [staysEscaped, hseparator, hunreserved]) (ih hes)

/-- Characters that are no part of an escape may be left out. -/
theorem WellEscaped.filter {ok : Char → Bool} {keep : Char → Bool} (h : WellEscaped ok cs)
    (hkeep : ∀ c, keep c = false → isUnreserved c = false ∧ c ≠ '%') :
    WellEscaped ok (cs.filter keep) := by
  induction h with
  | nil => exact .nil
  | @plain c cs hc _ ih =>
      rw [List.filter_cons]
      split
      · exact .plain hc ih
      · exact ih
  | @escape hi lo c cs he hc _ ih =>
      obtain ⟨hhi, hlo⟩ := isUnreserved_of_escaped? he
      have hkept : ∀ d, isUnreserved d = true ∨ d = '%' → keep d = true := by
        intro d hd
        rw [← Bool.not_eq_false]
        intro hout
        obtain ⟨hreserved, hne⟩ := hkeep d hout
        exact hd.elim (by simp [hreserved]) hne
      rw [List.filter_cons_of_pos (hkept _ (.inr rfl)), List.filter_cons_of_pos (hkept _ (.inl hhi)),
        List.filter_cons_of_pos (hkept _ (.inl hlo))]
      exact .escape he hc ih

theorem WellEscaped.significant {ok : Char → Bool} (h : WellEscaped ok cs) :
    WellEscaped ok (Url.Escape.significant cs) := by
  refine h.filter fun c hc => ?_
  simp only [Bool.not_eq_false', Url.Escape.isIgnored, Bool.or_eq_true, beq_iff_eq] at hc
  rcases hc with (rfl | rfl) | rfl <;> decide

theorem WellEscaped.unifySlashes {ok : Char → Bool} (h : WellEscaped ok cs) :
    WellEscaped ok (Url.Segments.unifySlashes true cs) := by
  simp only [Url.Segments.unifySlashes, if_true]
  induction h with
  | nil => exact .nil
  | @plain c cs hc _ ih =>
      refine .plain ?_ ih
      show (if c = '\\' then '/' else c) ≠ '%'
      split
      · decide
      · exact hc
  | @escape hi lo c cs he hc _ ih =>
      obtain ⟨hhi, hlo⟩ := ne_of_escaped? he (d := '\\') (by decide)
      simp only [List.map_cons, hhi, hlo, if_false]
      exact .escape he hc ih

theorem WellEscaped.splitAtSlashes {ok : Char → Bool} (h : WellEscaped ok cs) :
    ∀ s ∈ Split.pieces '/' cs, WellEscaped ok s := by
  induction h with
  | nil =>
      intro s hs
      simp only [Split.pieces, List.foldr_nil, List.mem_singleton] at hs
      exact hs ▸ .nil
  | @plain c cs hc _ ih =>
      by_cases hslash : c = '/'
      · rw [hslash, Split.pieces_cons_sep]
        exact List.forall_mem_cons.2 ⟨.nil, ih⟩
      · have hne : '/' ∉ [c] := by simpa using Ne.symm hslash
        exact Split.forall_pieces_append hne (fun _ hp => .plain hc hp) ih
  | @escape hi lo c cs he hc _ ih =>
      obtain ⟨hhi, hlo⟩ := ne_of_escaped? he (d := '/') (by decide)
      have hne : '/' ∉ ['%', hi, lo] := by simp [Ne.symm hhi, Ne.symm hlo]
      exact Split.forall_pieces_append hne (fun _ hp => .escape he hc hp) ih

theorem WellEscaped.pieces {ok : Char → Bool} (h : WellEscaped ok cs) :
    ∀ s ∈ Url.Segments.pieces true cs, WellEscaped ok s := by
  have hunified := h.unifySlashes
  unfold Url.Segments.pieces
  split
  · next rest heq =>
      rw [heq] at hunified
      intro s hs
      refine hunified.splitAtSlashes s ?_
      rw [Split.pieces_cons_sep]
      exact List.mem_cons_of_mem _ hs
  · exact hunified.splitAtSlashes

theorem WellEscaped.canonicalChars (h : WellEscaped staysEscaped cs) :
    WellEscaped staysEscaped (canonicalChars cs) := by
  refine .flatMap fun s hs => .plain (by decide) ?_
  exact Url.Segments.forall_resolve .nil (fun t ht _ => (h.significant.pieces t ht).encode) s hs

/-! The canonical form. -/

structure IsCanonical (n : List Char) : Prop where
  rooted : n.head? = some '/'
  visible : ∀ c ∈ n, 0x20 < c.toNat ∧ c.toNat < 0x7F ∧ c ∉ ['?', '#', '\\']
  noDots : ∀ s ∈ Split.pieces '/' n, ¬ IsDots s

/-- A canonical form is what the resolved text of a path is, as long as that has a root. -/
theorem normalizePath_eq_ok_iff {p n : String} :
    normalizePath p = .ok n ↔ ∃ cs, unescape? p.toList = some cs ∧
      canonicalChars cs = n.toList ∧ n.toList.head? = some '/' := by
  unfold normalizePath
  cases unescape? p.toList with
  | none => simp
  | some cs =>
      simp only [Option.some.injEq, exists_eq_left']
      constructor
      · intro h
        split at h
        · next hhead =>
            cases h
            rw [String.toList_ofList]
            exact ⟨rfl, hhead⟩
        · cases h
      · rintro ⟨hchars, hhead⟩
        rw [hchars, if_pos hhead, String.ofList_toList]

theorem canonicalChars_eq (cs : List Char) :
    ∃ segments, canonicalChars cs = Url.Segments.chars segments ∧
      ∀ s ∈ segments, IsResolved s :=
  ⟨_, rfl, fun _ hs => Url.Segments.isResolved_of_mem_ofChars hs⟩

theorem visible_of_kept {c : Char} (h : IsKept inPath c) :
    0x20 < c.toNat ∧ c.toNat < 0x7F ∧ c ≠ '?' ∧ c ≠ '#' := by
  have hall : ∀ n < 128, IsKept inPath (Char.ofNat n) →
      0x20 < n ∧ n < 0x7F ∧ Char.ofNat n ≠ '?' ∧ Char.ofNat n ≠ '#' := by
    decide
  simpa using hall c.toNat h.1 (by simpa using h)

theorem kept_of_mem_chars {segments : List (List Char)} (h : ∀ s ∈ segments, IsResolved s)
    {c : Char} (hc : c ∈ Url.Segments.chars segments) : IsKept inPath c ∧ c ≠ '\\' := by
  obtain ⟨s, hs, hmem⟩ := List.mem_flatMap.1 hc
  cases List.mem_cons.1 hmem with
  | inl hslash => exact hslash ▸ by decide
  | inr hmem =>
      obtain ⟨hkept, -, hne⟩ := (h s hs).kept c hmem
      exact ⟨hkept, hne⟩

theorem isCanonical_chars {segments : List (List Char)} (h : ∀ s ∈ segments, IsResolved s)
    (hhead : (Url.Segments.chars segments).head? = some '/') :
    IsCanonical (Url.Segments.chars segments) where
  rooted := hhead
  visible := by
    intro c hc
    obtain ⟨hkept, hne⟩ := kept_of_mem_chars h hc
    obtain ⟨hlow, hhigh, hquestion, hhash⟩ := visible_of_kept hkept
    exact ⟨hlow, hhigh, by simp [hquestion, hhash, hne]⟩
  noDots := by
    rw [Url.Segments.pieces_chars fun s hs hslash => ((h s hs).kept _ hslash).2.1 rfl]
    exact List.forall_mem_cons.2 ⟨Url.Segments.isResolved_nil.notDots, fun s hs => (h s hs).notDots⟩

/-- A text of resolved segments has no other canonical form. -/
theorem canonicalChars_chars {segments : List (List Char)} (h : ∀ s ∈ segments, IsResolved s)
    (hne : segments ≠ []) :
    canonicalChars (Url.Segments.chars segments) = Url.Segments.chars segments := by
  have hsplit := Url.Segments.pieces_chars fun s hs hslash => ((h s hs).kept _ hslash).2.1 rfl
  obtain ⟨s, rest, rfl⟩ := List.exists_cons_of_ne_nil hne
  rw [Url.Segments.chars_cons, Split.pieces_cons_sep] at hsplit
  have hkept : ∀ c ∈ s ++ Url.Segments.chars rest, IsKept inPath c ∧ c ≠ '\\' := by
    intro c hc
    refine kept_of_mem_chars h ?_
    rw [Url.Segments.chars_cons]
    exact List.mem_cons_of_mem _ hc
  have hpieces := (Url.Segments.pieces_of_kept hkept).trans (List.cons.inj hsplit).2
  rw [canonicalChars, Url.Segments.ofChars, Url.Segments.chars_cons, hpieces,
    Url.Segments.resolve, Url.Segments.walk_of_resolved h, List.append_nil, List.reverse_reverse]
  rfl

theorem length_canonicalChars_le {rest : List Char} (h : ∀ c ∈ rest, IsKept inPath c ∧ c ≠ '\\') :
    (canonicalChars ('/' :: rest)).length ≤ rest.length + 1 := by
  rw [canonicalChars, Url.Segments.ofChars, Url.Segments.pieces_of_kept h]
  have hkept : ∀ s ∈ Split.pieces '/' rest, ∀ c ∈ s, IsKept inPath c :=
    fun s hs c hc => (h c (Split.mem_of_mem_pieces hs hc).1).1
  have hlength := Url.Segments.length_resolve_le hkept
  rwa [Url.Segments.chars_pieces, List.length_cons] at hlength

/-- A text of resolved segments is its own canonical form exactly if no escape in it has to be
undone or refused. -/
theorem settled_iff_normalizePath_self {n : String} {segments : List (List Char)}
    (hn : n.toList = Url.Segments.chars segments) (h : ∀ s ∈ segments, IsResolved s)
    (hhead : n.toList.head? = some '/') : Settled n.toList ↔ normalizePath n = .ok n := by
  rw [normalizePath_eq_ok_iff]
  constructor
  · intro hsettled
    refine ⟨n.toList, unescape?_of_settled hsettled, ?_, hhead⟩
    rw [hn]
    refine canonicalChars_chars h ?_
    rintro rfl
    simp [hn, Url.Segments.chars] at hhead
  · rintro ⟨cs, hcs, hchars, -⟩
    obtain ⟨rest, hrest⟩ := List.head?_eq_some_iff.1 hhead
    rw [hrest, unescape?_of_plain (by decide)] at hcs
    obtain ⟨ds, hds, rfl⟩ := Option.map_eq_some_iff.1 hcs
    have hkept : ∀ c ∈ ds, IsKept inPath c ∧ c ≠ '\\' := by
      intro c hc
      cases mem_of_unescape? hds hc with
      | inl hmem =>
          refine kept_of_mem_chars h ?_
          rw [← hn, hrest]
          exact List.mem_cons_of_mem _ hmem
      | inr hunreserved =>
          refine ⟨kept_of_isUnreserved hunreserved, ?_⟩
          rintro rfl
          exact absurd hunreserved (by decide)
    -- undoing an escape would have made the form shorter than the path
    have hlength := length_canonicalChars_le hkept
    rw [hchars, hrest, List.length_cons] at hlength
    rw [hrest]
    refine settled_cons ((length_of_unescape? hds).2 (Nat.le_of_succ_le_succ hlength)) ?_
    intro hi lo d hstart
    exact absurd (List.cons_prefix_cons.1 hstart).1 (by decide)

/-- A canonical path is rooted, visible and free of dot segments. It is free of
escapes of separators and of characters that need none exactly if it is its own
canonical form, as it is whenever every percent sign of the request path begins
an escape. -/
theorem normalizePath_canonical {p n : String} (h : normalizePath p = .ok n) :
    IsCanonical n.toList ∧ (Settled n.toList ↔ normalizePath n = .ok n) ∧
      (WellEscaped (fun _ => true) p.toList → Settled n.toList) := by
  obtain ⟨cs, hcs, hchars, hhead⟩ := normalizePath_eq_ok_iff.1 h
  obtain ⟨segments, hsegments, hresolved⟩ := canonicalChars_eq cs
  have hn : n.toList = Url.Segments.chars segments := hchars.symm.trans hsegments
  refine ⟨?_, settled_iff_normalizePath_self hn hresolved hhead, fun hp => ?_⟩
  · rw [hn] at hhead ⊢
    exact isCanonical_chars hresolved hhead
  · rw [← hchars]
    exact (hp.unescape? hcs).canonicalChars.settled

/-- The dots of this path are resolved, and the escape of a space stays. -/
theorem normalizePath_canonical_of_dots :
    IsCanonical "/b%20c".toList ∧ Settled "/b%20c".toList := by
  have h : normalizePath "/a/%2E./b%20c" = .ok "/b%20c" := by rfl
  obtain ⟨hcanonical, -, hsettled⟩ := normalizePath_canonical h
  refine ⟨hcanonical, hsettled ?_⟩
  show WellEscaped _ ['/', 'a', '/', '%', '2', 'E', '.', '/', 'b', '%', '2', '0', 'c']
  have hc : WellEscaped (fun _ => true) ['c'] := .plain (by decide) .nil
  have hb : WellEscaped (fun _ => true) ['.', '/', 'b', '%', '2', '0', 'c'] :=
    .plain (by decide) (.plain (by decide) (.plain (by decide) (.escape (c := ' ') rfl rfl hc)))
  exact .plain (by decide) (.plain (by decide) (.plain (by decide) (.escape (c := '.') rfl rfl hb)))

/-- The two characters behind an escape that is undone can be the end of another. -/
theorem not_settled_of_nested_escape :
    ¬ ∀ p n, normalizePath p = .ok n → Settled n.toList := by
  intro h
  have hnormal : normalizePath "/%%32f" = .ok "/%2f" := by rfl
  have hstays := h _ _ hnormal '2' 'f' '/' (by decide) (by decide)
  exact absurd hstays (by decide)

end Route

end AuthGateway
