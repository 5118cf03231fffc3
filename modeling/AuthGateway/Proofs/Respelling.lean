import AuthGateway.Gateway
import AuthGateway.Proofs.CanonicalPath
import AuthGateway.Proofs.RenderedUrl
import Mathlib.Logic.Relation

/-!
Paths that are spelled differently and mean the same. A character may be escaped where it
need not be, a slash may be a backslash, and behind every slash there may be a segment
that leads nowhere. As long as every percent sign begins an escape, and none of a
separator, all these spellings have one canonical form, and the gateway does the same
about all of them.
-/
namespace AuthGateway

namespace Url.Segments

open Escape (inPath)

variable {done rest : List (List Char)} {s : List Char}

/-! Segments in the middle of a path, where none of them is the last. -/

theorem walk_append (done init : List (List Char)) (hne : rest ≠ []) :
    walk done (init ++ rest) = walk (init.foldl (enter · · false) done) rest := by
  induction init generalizing done with
  | nil => rfl
  | cons s init ih =>
      have hlast : (init ++ rest).isEmpty = false := by
        rw [List.isEmpty_eq_false_iff]
        exact List.append_ne_nil_of_right_ne_nil init hne
      rw [List.cons_append, walk, hlast, ih, List.foldl_cons]

theorem enter_dot (done : List (List Char)) : enter done ['.'] false = done :=
  rfl

theorem mem_of_isDots (h : IsDots s) : '.' ∈ s ∨ '%' ∈ s := by
  simp only [IsDots, dots, List.mem_cons, List.not_mem_nil, or_false] at h
  rcases h with (rfl | rfl | rfl) | ⟨d, rfl | rfl | rfl, d', -, rfl⟩ <;> simp

theorem mem_of_startsAtDrive (h : startsAtDrive s = true) : ':' ∈ s ∨ '|' ∈ s := by
  have hdrive {d : List Char} (h : isDrive d = true) : ':' ∈ d ∨ '|' ∈ d := by
    unfold isDrive at h
    split at h
    · simp only [Bool.and_eq_true, Bool.or_eq_true, beq_iff_eq] at h
      rcases h.2 with rfl | rfl <;> simp
    · cases h
  simp only [startsAtDrive, Bool.or_eq_true, Bool.and_eq_true] at h
  rcases h with h | ⟨h, -⟩
  · exact hdrive h
  · exact (hdrive h).imp List.mem_of_mem_take List.mem_of_mem_take

/-- A segment of letters and digits is left again by the dots behind it. -/
theorem enter_detour (hs : ∀ c ∈ s, Ascii.isAlphanumeric c = true) (done : List (List Char)) :
    enter (enter done s false) ['.', '.'] false = done := by
  have hmem {d : Char} (hd : Ascii.isAlphanumeric d = false) : d ∉ s := fun h => by
    simp [hs d h] at hd
  have hdots : isSingleDot s = false ∧ isDoubleDot s = false := by
    refine Decidable.not_not.1 fun h => ?_
    exact (mem_of_isDots (isDots_iff.2 h)).elim (hmem (by decide)) (hmem (by decide))
  have hdrive : startsAtDrive s = false := by
    rw [← Bool.not_eq_true]
    exact fun h => (mem_of_startsAtDrive h).elim (hmem (by decide)) (hmem (by decide))
  have hkept : Percent.encode inPath s = s := by
    refine Percent.encode_of_kept fun c hc => Route.kept_of_isUnreserved ?_
    simp [Route.isUnreserved, hs c hc]
  have henter : enter done s false = s :: done := by
    simp only [enter, hdots.1, hdots.2, Bool.false_eq_true, if_false, hkept]
  have hleave : enter (s :: done) ['.', '.'] false = leave (s :: done) := rfl
  rw [henter, hleave, leave, hdrive]
  rfl

/-! What stands between slashes. -/

def unified (cs : List Char) : List Char :=
  unifySlashes true (Escape.significant cs)

theorem unified_append (cs ds : List Char) : unified (cs ++ ds) = unified cs ++ unified ds := by
  simp only [unified, unifySlashes, Escape.significant, if_true, List.filter_append,
    List.map_append]

theorem unified_slash (cs : List Char) : unified ('/' :: cs) = '/' :: unified cs := by
  rfl

theorem unified_backslash (cs : List Char) : unified ('\\' :: cs) = '/' :: unified cs := by
  rfl

theorem unified_of_alphanumeric (hs : ∀ c ∈ s, Ascii.isAlphanumeric c = true) : unified s = s := by
  have hkept : ∀ c ∈ s, Escape.isIgnored c = false ∧ c ≠ '\\' := by
    intro c hc
    have h := hs c hc
    refine ⟨?_, ?_⟩
    · rw [← Bool.not_eq_true]
      intro hignored
      simp only [Escape.isIgnored, Bool.or_eq_true, beq_iff_eq] at hignored
      rcases hignored with (rfl | rfl) | rfl <;> exact absurd h (by decide)
    · rintro rfl
      exact absurd h (by decide)
  have hsignificant : Escape.significant s = s :=
    List.filter_eq_self.2 fun c hc => by simp [(hkept c hc).1]
  rw [unified, hsignificant, unifySlashes, if_pos rfl]
  exact (List.map_congr_left fun c hc => if_neg (hkept c hc).2).trans (List.map_id s)

/-- The segments of a text, once it is unified. -/
theorem ofChars_congr {cs ds : List Char} (h : unified cs = unified ds) :
    ofChars true (Escape.significant cs) = ofChars true (Escape.significant ds) := by
  unfold unified at h
  unfold ofChars pieces
  rw [h]

theorem pieces_of_rooted {cs tail : List Char} (h : unified cs = '/' :: tail) :
    pieces true (Escape.significant cs) = Split.pieces '/' tail := by
  rw [unified] at h
  rw [pieces, h]
  rfl

theorem pieces_of_not_rooted {c : Char} {cs tail : List Char} (hc : c ≠ '/')
    (h : unified cs = c :: tail) :
    pieces true (Escape.significant cs) = Split.pieces '/' (c :: tail) := by
  rw [unified] at h
  rw [pieces, h]
  split
  · next heq => exact absurd (List.cons.inj heq).1 hc
  · rfl

/-- A slash ends what is in front of it: the pieces behind it do not depend on that. -/
theorem exists_pieces_append (front : List Char) : ∃ init, ∀ back,
    pieces true (Escape.significant (front ++ '/' :: back)) =
      init ++ Split.pieces '/' (unified back) := by
  have hunified (back : List Char) : unified (front ++ '/' :: back) =
      unified front ++ '/' :: unified back := by
    rw [unified_append, unified_slash]
  cases hfront : unified front with
  | nil =>
      refine ⟨[], fun back => pieces_of_rooted ?_⟩
      rw [hunified, hfront, List.nil_append]
  | cons c tail =>
      have hcut (back : List Char) : unified (front ++ '/' :: back) =
          c :: (tail ++ '/' :: unified back) := by
        rw [hunified, hfront, List.cons_append]
      by_cases hc : c = '/'
      · subst hc
        refine ⟨Split.pieces '/' tail, fun back => ?_⟩
        rw [pieces_of_rooted (hcut back), Split.pieces_append_cons]
      · refine ⟨Split.pieces '/' (c :: tail), fun back => ?_⟩
        rw [pieces_of_not_rooted hc (hcut back), ← List.cons_append, Split.pieces_append_cons]

/-- What is behind a slash is walked through from the segments in front of it. -/
theorem exists_walk (front : List Char) : ∃ done, ∀ back,
    ofChars true (Escape.significant (front ++ '/' :: back)) =
      (walk done (Split.pieces '/' (unified back))).reverse := by
  obtain ⟨init, hinit⟩ := exists_pieces_append front
  refine ⟨init.foldl (enter · · false) [], fun back => ?_⟩
  rw [ofChars, hinit, resolve, walk_append [] init (Split.pieces_ne_nil '/' _)]

theorem ofChars_backslash (front back : List Char) :
    ofChars true (Escape.significant (front ++ '\\' :: back)) =
      ofChars true (Escape.significant (front ++ '/' :: back)) := by
  apply ofChars_congr
  rw [unified_append, unified_append, unified_backslash, unified_slash]

/-- A segment that is left at once makes no difference. -/
theorem ofChars_detour (hs : ∀ c ∈ s, Ascii.isAlphanumeric c = true) (front back : List Char) :
    ofChars true (Escape.significant (front ++ '/' :: (s ++ '/' :: '.' :: '.' :: '/' :: back))) =
      ofChars true (Escape.significant (front ++ '/' :: back)) := by
  obtain ⟨done, hdone⟩ := exists_walk front
  have hslash : '/' ∉ s := fun h => absurd (hs _ h) (by decide)
  have hback : unified (s ++ '/' :: '.' :: '.' :: '/' :: back) =
      s ++ '/' :: (['.', '.'] ++ '/' :: unified back) := by
    rw [unified_append, unified_of_alphanumeric hs]
    rfl
  have hpieces : Split.pieces '/' (s ++ '/' :: (['.', '.'] ++ '/' :: unified back)) =
      [s, ['.', '.']] ++ Split.pieces '/' (unified back) := by
    rw [Split.pieces_append_sep hslash, Split.pieces_append_sep (by decide)]
    rfl
  rw [hdone, hdone, hback, hpieces, walk_append done _ (Split.pieces_ne_nil '/' _),
    List.foldl_cons, List.foldl_cons, List.foldl_nil, enter_detour hs]

/-- A dot between two slashes makes no difference. -/
theorem ofChars_dot (front back : List Char) :
    ofChars true (Escape.significant (front ++ '/' :: '.' :: '/' :: back)) =
      ofChars true (Escape.significant (front ++ '/' :: back)) := by
  obtain ⟨done, hdone⟩ := exists_walk front
  have hslash : '/' ∉ ['.'] := by decide
  have hpieces : Split.pieces '/' (unified ('.' :: '/' :: back)) =
      [['.']] ++ Split.pieces '/' (unified back) :=
    Split.pieces_append_sep hslash (unified back)
  rw [hdone, hdone, hpieces, walk_append done _ (Split.pieces_ne_nil '/' _), List.foldl_cons,
    List.foldl_nil, enter_dot]

end Url.Segments

namespace Route

/-! Texts with escapes, in parts. -/

/-- The next character is one of the two that belong to a percent sign. -/
def EndsInEscape (front : List Char) : Prop :=
  ['%'] <:+ front ∨ ∃ hi, ['%', hi] <:+ front

/-- Every percent sign begins an escape, and none is one of a separator. -/
def IsWellFormed (cs : List Char) : Prop :=
  WellEscaped (fun c => !isSeparator c) cs

variable {ok : Char → Bool} {front back cs ds p q : List Char} {c : Char}

theorem EndsInEscape.cons (h : EndsInEscape front) (c : Char) : EndsInEscape (c :: front) := by
  rcases h with h | ⟨hi, h⟩
  · exact .inl (h.trans (List.suffix_cons c front))
  · exact .inr ⟨hi, h.trans (List.suffix_cons c front)⟩

theorem not_endsInEscape (h : '%' ∉ front) : ¬ EndsInEscape front := by
  rintro (hsuffix | ⟨hi, hsuffix⟩)
  · exact h (hsuffix.subset (by simp))
  · exact h (hsuffix.subset (by simp))

/-- A text may be cut anywhere but inside an escape. -/
theorem WellEscaped.split (h : WellEscaped ok (front ++ back))
    (hcut : ∀ d ∈ back.head?, isUnreserved d = true → ¬ EndsInEscape front) :
    WellEscaped ok front ∧ WellEscaped ok back := by
  generalize htext : front ++ back = cs at h
  induction h generalizing front with
  | nil =>
      obtain ⟨rfl, rfl⟩ := List.append_eq_nil_iff.1 htext
      exact ⟨.nil, .nil⟩
  | @plain c cs hc h ih =>
      cases front with
      | nil =>
          obtain rfl : back = c :: cs := htext
          exact ⟨.nil, .plain hc h⟩
      | cons d front =>
          obtain ⟨rfl, hrest⟩ := List.cons.inj htext
          obtain ⟨hfront, hback⟩ := ih (fun e he hu h => hcut e he hu (h.cons d)) hrest
          exact ⟨.plain hc hfront, hback⟩
  | @escape hi lo c cs he hc h ih =>
      obtain ⟨hhi, hlo⟩ := isUnreserved_of_escaped? he
      -- the cut is in front of the escape, in one of two places inside it, or behind it
      match front, htext with
      | [], htext =>
          obtain rfl : back = '%' :: hi :: lo :: cs := htext
          exact ⟨.nil, .escape he hc h⟩
      | [d], htext =>
          obtain ⟨rfl, rfl⟩ := List.cons.inj htext
          exact absurd (.inl List.suffix_rfl) (hcut hi rfl hhi)
      | [d, e], htext =>
          simp only [List.cons_append, List.nil_append, List.cons.injEq] at htext
          obtain ⟨rfl, rfl, rfl⟩ := htext
          exact absurd (.inr ⟨e, List.suffix_rfl⟩) (hcut lo rfl hlo)
      | d :: e :: f :: front, htext =>
          simp only [List.cons_append, List.cons.injEq] at htext
          obtain ⟨rfl, rfl, rfl, hrest⟩ := htext
          obtain ⟨hfront, hback⟩ :=
            ih (fun g hg hu h => hcut g hg hu (((h.cons _).cons _).cons _)) hrest
          exact ⟨.escape he hc hfront, hback⟩

theorem isSeparator_of_isUnreserved (h : isUnreserved c = true) : isSeparator c = false := by
  rw [← Bool.not_eq_true]
  intro hseparator
  simp only [isSeparator, Bool.or_eq_true, beq_iff_eq] at hseparator
  rcases hseparator with rfl | rfl
  · exact absurd h (by decide)
  · exact absurd h (by decide)

theorem unescape?_escape {hi lo : Char} (he : escaped? hi lo = some c)
    (hc : isUnreserved c = true) (back : List Char) :
    unescape? ('%' :: hi :: lo :: back) = (unescape? back).map (c :: ·) := by
  simp only [unescape?, he, isSeparator_of_isUnreserved hc, hc, Bool.false_eq_true, if_false,
    if_true]

/-- Undoing escapes goes on behind a text as if it were not there. -/
theorem IsWellFormed.exists_unescape? (h : IsWellFormed front) :
    ∃ ds, ∀ back, unescape? (front ++ back) = (unescape? back).map (ds ++ ·) := by
  unfold IsWellFormed at h
  induction h with
  | nil => exact ⟨[], fun back => by simp⟩
  | @plain c cs hc _ ih =>
      obtain ⟨ds, hds⟩ := ih
      refine ⟨c :: ds, fun back => ?_⟩
      rw [List.cons_append, unescape?_of_plain hc, hds, Option.map_map]
      rfl
  | @escape hi lo c cs he hc _ ih =>
      obtain ⟨ds, hds⟩ := ih
      by_cases hunreserved : isUnreserved c = true
      · refine ⟨c :: ds, fun back => ?_⟩
        rw [List.cons_append, List.cons_append, List.cons_append, unescape?_escape he hunreserved,
          hds, Option.map_map]
        rfl
      · -- the escape stays, and its digits are read as any other characters
        obtain ⟨hhi, hlo⟩ := ne_of_escaped? he (d := '%') (by decide)
        have hseparator : isSeparator c = false := by simpa using hc
        refine ⟨'%' :: hi :: lo :: ds, fun back => ?_⟩
        simp only [List.cons_append, unescape?, he, hseparator, hunreserved, Bool.false_eq_true,
          if_false, unescape?_of_plain hhi, unescape?_of_plain hlo, hds, Option.map_map]
        rfl

theorem IsWellFormed.cut_at_slash (h : IsWellFormed (front ++ '/' :: back)) :
    IsWellFormed front ∧ IsWellFormed back := by
  have hcut : ∀ d ∈ ('/' :: back).head?, isUnreserved d = true → ¬ EndsInEscape front := by
    rintro d hd hu
    obtain rfl := Option.some.inj hd
    exact absurd hu (by decide)
  obtain ⟨hfront, hback⟩ := WellEscaped.split h hcut
  cases hback with
  | plain _ hback => exact ⟨hfront, hback⟩

theorem isWellFormed_append_of_plain (hcs : '%' ∉ cs) (h : IsWellFormed back) :
    IsWellFormed (cs ++ back) := by
  induction cs with
  | nil => exact h
  | cons c cs ih =>
      rw [List.mem_cons, not_or] at hcs
      exact .plain (Ne.symm hcs.1) (ih hcs.2)

theorem unescape?_append_of_plain (hcs : '%' ∉ cs) (back : List Char) :
    unescape? (cs ++ back) = (unescape? back).map (cs ++ ·) := by
  induction cs with
  | nil => simp
  | cons c cs ih =>
      rw [List.mem_cons, not_or] at hcs
      rw [List.cons_append, unescape?_of_plain (Ne.symm hcs.1), ih hcs.2, Option.map_map]
      rfl

/-! Respelling. -/

/-- What leads from a segment to the next: a slash or a backslash, and between two slashes
a dot, or a segment that is left at once. -/
inductive MeansSlash : List Char → Prop where
  | backslash : MeansSlash ['\\']
  | dot : MeansSlash ['/', '.', '/']
  | detour {s : List Char} (hs : ∀ c ∈ s, Ascii.isAlphanumeric c = true) :
      MeansSlash ('/' :: (s ++ ['/', '.', '.', '/']))

/-- A path and another one in which one thing is spelled differently. -/
inductive Respells : List Char → List Char → Prop where
  /-- A character that need not be escaped is, unless it belongs to an escape. -/
  | escape {front back : List Char} {c hi lo : Char} (hc : isUnreserved c = true)
      (hfront : ¬ EndsInEscape front) (he : escaped? hi lo = some c) :
      Respells (front ++ c :: back) (front ++ '%' :: hi :: lo :: back)
  | slash {front back cs : List Char} (h : MeansSlash cs) :
      Respells (front ++ '/' :: back) (front ++ (cs ++ back))

abbrev IsRespelled : List Char → List Char → Prop :=
  Relation.ReflTransGen Respells

theorem MeansSlash.plain (h : MeansSlash cs) : '%' ∉ cs := by
  cases h with
  | backslash => decide
  | dot => decide
  | detour hs =>
      have hpercent : ∀ c ∈ _, c ≠ '%' := fun c hc heq => absurd (hs c hc) (by rw [heq]; decide)
      simpa using fun h => hpercent _ h rfl

theorem MeansSlash.canonical_eq (h : MeansSlash cs) (front back : List Char) :
    canonicalChars (front ++ (cs ++ back)) = canonicalChars (front ++ '/' :: back) := by
  refine congrArg Url.Segments.chars ?_
  cases h with
  | backslash => exact Url.Segments.ofChars_backslash front back
  | dot => exact Url.Segments.ofChars_dot front back
  | @detour s hs =>
      rw [← Url.Segments.ofChars_detour hs front back, List.cons_append, List.append_assoc]
      rfl

/-- Respelling makes no escape of a separator, and no percent sign without an escape. -/
theorem Respells.isWellFormed (h : Respells p q) (hp : IsWellFormed p) : IsWellFormed q := by
  cases h with
  | escape hc hfront he =>
      obtain ⟨hfront, hback⟩ := WellEscaped.split hp fun _ _ _ => hfront
      cases hback with
      | plain _ hback =>
          exact hfront.append (.escape he (by simp [isSeparator_of_isUnreserved hc]) hback)
      | escape => exact absurd hc (by decide)
  | slash h =>
      obtain ⟨hfront, hback⟩ := hp.cut_at_slash
      exact hfront.append (isWellFormed_append_of_plain h.plain hback)

/-- What is spelled differently is undone with the escapes or resolved with the dots. -/
theorem Respells.canonical_eq (h : Respells p q) (hp : IsWellFormed p) :
    (unescape? q).map canonicalChars = (unescape? p).map canonicalChars := by
  cases h with
  | @escape front back c hi lo hc hfront he =>
      have hfront : IsWellFormed front := (WellEscaped.split hp fun _ _ _ => hfront).1
      obtain ⟨ds, hds⟩ := hfront.exists_unescape?
      have hpercent : c ≠ '%' := by
        rintro rfl
        exact absurd hc (by decide)
      rw [hds, hds, unescape?_escape he hc, unescape?_of_plain hpercent]
  | @slash front back cs h =>
      obtain ⟨ds, hds⟩ := hp.cut_at_slash.1.exists_unescape?
      rw [hds, hds, unescape?_append_of_plain h.plain, unescape?_of_plain (by decide)]
      simp only [Option.map_map]
      congr 1
      funext es
      exact h.canonical_eq ds es

theorem IsRespelled.canonical_eq (h : IsRespelled p q) (hp : IsWellFormed p) :
    IsWellFormed q ∧ (unescape? q).map canonicalChars = (unescape? p).map canonicalChars := by
  induction h with
  | refl => exact ⟨hp, rfl⟩
  | tail _ hstep ih =>
      obtain ⟨hq, hsame⟩ := ih
      exact ⟨hstep.isWellFormed hq, (hstep.canonical_eq hq).trans hsame⟩

theorem normalizePath_congr {p q : String} (h : (unescape? q.toList).map canonicalChars =
    (unescape? p.toList).map canonicalChars) : normalizePath q = normalizePath p := by
  unfold normalizePath
  cases hp : unescape? p.toList with
  | none =>
      rw [hp, Option.map_none, Option.map_eq_none_iff] at h
      rw [h]
  | some ds =>
      rw [hp, Option.map_some, Option.map_eq_some_iff] at h
      obtain ⟨es, hes, heq⟩ := h
      simp only [hes, heq]

theorem head_canonicalChars (cs : List Char) : (canonicalChars cs).head? = some '/' := by
  obtain ⟨s, rest, h⟩ := List.exists_cons_of_ne_nil
    (Url.Segments.ofChars_ne_nil true (Url.Escape.significant cs))
  rw [canonicalChars, h]
  rfl

/-- A path whose percent signs begin escapes, and none of a separator, has a canonical form,
and that is its own. -/
theorem exists_canonical {p : String} (hp : IsWellFormed p.toList) :
    ∃ n, normalizePath p = .ok n ∧ normalizePath n = .ok n := by
  obtain ⟨ds, hds⟩ := hp.exists_unescape?
  have hundone : unescape? p.toList = some ds := by simpa [unescape?] using hds []
  have hchars : (String.ofList (canonicalChars ds)).toList = canonicalChars ds :=
    String.toList_ofList
  have hhead := head_canonicalChars ds
  refine ⟨String.ofList (canonicalChars ds), ?_, ?_⟩
  · exact normalizePath_eq_ok_iff.2 ⟨ds, hundone, hchars.symm, by rwa [hchars]⟩
  · obtain ⟨segments, hsegments, hresolved⟩ := canonicalChars_eq ds
    have hsettled := (WellEscaped.unescape? hp hundone).canonicalChars.settled
    rw [← hchars] at hsettled hsegments hhead
    exact (settled_iff_normalizePath_self hsegments hresolved hhead).1 hsettled

end Route

namespace Gateway

open Http (Request)
open Revocation (Store)
open Route (IsRespelled IsWellFormed Respells normalizePath)

variable (g : Gateway) (store : Store) (nonce : Octets 12) (now : Int64)

theorem authenticate_of_path (a : Authenticator) (policy : Policy) (r : Request) (q : String)
    (body : List UInt8) :
    a.authenticate store nonce now policy { r with path := q } body =
      a.authenticate store nonce now policy r body := by
  rfl

theorem outgoing?_of_path (r : Request) (q : String) (url : Url) (session : Option Session) :
    Forwarding.outgoing? { r with path := q } url session =
      Forwarding.outgoing? r url session := by
  rfl

theorem planRoute_of_path (route : Route) (n : String) (r : Request) (q : String) :
    g.planRoute store nonce now route n { r with path := q } =
      g.planRoute store nonce now route n r := by
  simp only [planRoute, authenticate_of_path, outgoing?_of_path]

/-- Once its canonical form is known, the spelling of a path does not matter. -/
theorem planForward_of_path {p q : String} (h : normalizePath q = normalizePath p) (r : Request) :
    g.planForward store nonce now { r with path := q } =
      g.planForward store nonce now { r with path := p } := by
  simp only [planForward, h, planRoute_of_path]

/-- All spellings of a path have the canonical form of the path, which is its own, and a
gateway does the same about a request with any of them: it takes the same route and asks
the same URL. -/
theorem respelled_paths_are_one {p : String} (hp : IsWellFormed p.toList) :
    ∃ n, normalizePath p = .ok n ∧ normalizePath n = .ok n ∧
      ∀ q : String, IsRespelled p.toList q.toList → normalizePath q = .ok n ∧
        ∀ (g : Gateway) (store : Store) (nonce : Octets 12) (now : Int64) (r : Request),
          g.planForward store nonce now { r with path := q } =
            g.planForward store nonce now { r with path := p } := by
  obtain ⟨n, hn, hown⟩ := Route.exists_canonical hp
  refine ⟨n, hn, hown, fun q hq => ?_⟩
  have hsame : normalizePath q = normalizePath p :=
    Route.normalizePath_congr (hq.canonical_eq hp).2
  exact ⟨hsame.trans hn, fun g store nonce now r => planForward_of_path g store nonce now hsame r⟩

/-- An escape, a backslash, a dot, and a segment that is left again. -/
theorem respelled_paths_are_one_of_four :
    IsWellFormed "/a~b/c".toList ∧
      IsRespelled "/a~b/c".toList "\\a%7Eb/./x/../c".toList ∧
      normalizePath "\\a%7Eb/./x/../c" = .ok "/a~b/c" := by
  have hp : IsWellFormed (['/', 'a', '~', 'b', '/', 'c'] ++ []) :=
    Route.isWellFormed_append_of_plain (by decide) .nil
  have hescape : Respells (['/', 'a'] ++ '~' :: ['b', '/', 'c'])
      (['/', 'a'] ++ '%' :: '7' :: 'E' :: ['b', '/', 'c']) :=
    .escape rfl (Route.not_endsInEscape (by decide)) rfl
  have hbackslash : Respells ([] ++ '/' :: "a%7Eb/c".toList) ([] ++ (['\\'] ++ "a%7Eb/c".toList)) :=
    .slash .backslash
  have hdot : Respells ("\\a%7Eb".toList ++ '/' :: ['c'])
      ("\\a%7Eb".toList ++ (['/', '.', '/'] ++ ['c'])) :=
    .slash .dot
  have hdetour : Respells ("\\a%7Eb/.".toList ++ '/' :: ['c'])
      ("\\a%7Eb/.".toList ++ (('/' :: (['x'] ++ ['/', '.', '.', '/'])) ++ ['c'])) :=
    .slash (.detour (List.forall_mem_singleton.2 rfl))
  have hq : IsRespelled "/a~b/c".toList "\\a%7Eb/./x/../c".toList :=
    .tail (.tail (.tail (.single hescape) hbackslash) hdot) hdetour
  obtain ⟨n, hn, -, hsame⟩ := respelled_paths_are_one (p := "/a~b/c") hp
  have hcanonical : normalizePath "/a~b/c" = .ok "/a~b/c" := by rfl
  exact ⟨hp, hq, (hsame _ hq).1.trans (hn.symm.trans hcanonical)⟩

end Gateway

end AuthGateway
