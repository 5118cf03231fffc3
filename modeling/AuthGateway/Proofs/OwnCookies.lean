import AuthGateway.Proofs.Cookies

/-!
What is left of a cookie header once the gateway has taken its own cookies out.
Whoever reads the rest by the rules of the gateway finds all other cookies again,
in their order. The gateway compares names as they are spelled but reads them
decoded, so that of its own cookies those are left whose names have an escape.
-/
namespace AuthGateway

namespace Http

def trimmedPieces (cs : List Char) : List (List Char) :=
  (Split.pieces ';' cs).map Blank.trimChars

theorem cookiePairs_eq (header : String) :
    cookiePairs header = (trimmedPieces header.toList).filterMap pair? :=
  rfl

theorem trimmedPieces_cons_blank (cs : List Char) :
    trimmedPieces (' ' :: cs) = trimmedPieces cs := by
  rw [trimmedPieces, trimmedPieces, Split.pieces_cons_of_ne (by decide)]
  cases hcs : Split.pieces ';' cs with
  | nil => exact absurd hcs (Split.pieces_ne_nil ';' cs)
  | cons p ps =>
      have htrim : Blank.trimChars (' ' :: p) = Blank.trimChars p := Blank.trimBy_cons (by decide) p
      rw [List.headD_cons, List.tail_cons, List.map_cons, htrim, List.map_cons]

/-- Trimmed pieces are found again in their join. -/
theorem trimmedPieces_join {ps : List (List Char)} (hne : ps ≠ [])
    (h : ∀ p ∈ ps, ';' ∉ p ∧ Blank.trimChars p = p) :
    trimmedPieces (Split.join [';', ' '] ps) = ps := by
  induction ps with
  | nil => exact absurd rfl hne
  | cons p ps ih =>
      obtain ⟨hp, hps⟩ := List.forall_mem_cons.1 h
      cases ps with
      | nil => rw [Split.join, trimmedPieces, Split.pieces_of_not_mem hp.1, List.map_singleton, hp.2]
      | cons q rest =>
          have hjoin : Split.join [';', ' '] (p :: q :: rest) =
              p ++ ';' :: ' ' :: Split.join [';', ' '] (q :: rest) := by
            simp [Split.join]
          have hrest := ih (List.cons_ne_nil q rest) hps
          rw [← trimmedPieces_cons_blank, trimmedPieces] at hrest
          rw [hjoin, trimmedPieces, Split.pieces_append_sep hp.1, List.map_cons, hp.2, hrest]

theorem plain_of_mem_trimmedPieces {cs p : List Char} (h : p ∈ trimmedPieces cs) :
    ';' ∉ p ∧ Blank.trimChars p = p := by
  obtain ⟨q, hq, rfl⟩ := List.mem_map.1 h
  constructor
  · intro hmem
    exact (Split.mem_of_mem_pieces hq (Blank.mem_of_mem_trimBy hmem)).2 rfl
  · exact Blank.trimBy_trimBy q

def spelling (piece : List Char) : List Char :=
  Blank.trimChars (Split.before '=' piece)

/-- The name of a cookie is the decoded spelling. -/
theorem decode_spelling {piece : List Char} {c : String × String} (h : pair? piece = some c) :
    piece ≠ [] ∧ Percent.decodeText? (String.ofList (spelling piece)) = some c.1 := by
  simp only [pair?, rawPair?, Split.once?, Option.bind_eq_bind, Option.bind_eq_some_iff,
    Option.map_eq_some_iff] at h
  obtain ⟨_, ⟨_, ⟨rest, hrest, rfl⟩, hraw⟩, name, hname, value, -, hc⟩ := h
  split at hraw
  · cases hraw
  · cases hraw
    cases hc
    refine ⟨?_, hname⟩
    rintro rfl
    cases hrest

end Http

namespace CookieIssuer

open Http (cookiePairs pair? spelling trimmedPieces)

def ownNames : List String :=
  [sessionName, csrfName, loginStateName]

def leftCookies (header : String) : List (String × String) :=
  ((withoutOwn? header).map cookiePairs).getD []

theorem isOwnName_iff {name : List Char} : isOwnName name = true ↔ String.ofList name ∈ ownNames := by
  simp only [isOwnName, List.any_eq_true, beq_iff_eq]
  constructor
  · rintro ⟨own, hmem, rfl⟩
    rwa [String.ofList_toList]
  · intro h
    exact ⟨_, h, String.toList_ofList⟩

theorem isForwarded_iff {piece : List Char} :
    isForwarded piece = true ↔ piece ≠ [] ∧ String.ofList (spelling piece) ∉ ownNames := by
  rw [isForwarded, Bool.and_eq_true, Bool.not_eq_true', Bool.not_eq_true', ← Bool.not_eq_true,
    ← Bool.not_eq_true, isOwnName_iff, List.isEmpty_iff]
  rfl

def forwardedPieces (header : String) : List (List Char) :=
  (trimmedPieces header.toList).filter isForwarded

theorem withoutOwn?_eq (header : String) :
    withoutOwn? header =
      if forwardedPieces header = [] then none
      else some (String.ofList (Split.join [';', ' '] (forwardedPieces header))) := by
  unfold withoutOwn?
  split
  · next hnil => exact (if_pos hnil).symm
  · next hne => exact (if_neg hne).symm

theorem leftCookies_eq (header : String) :
    leftCookies header = (forwardedPieces header).filterMap pair? := by
  rw [leftCookies, withoutOwn?_eq]
  split
  · next hnil => simp [hnil]
  · next hne =>
      rw [Option.map_some, Option.getD_some, Http.cookiePairs_eq, String.toList_ofList,
        Http.trimmedPieces_join hne]
      intro p hp
      exact Http.plain_of_mem_trimmedPieces (List.mem_filter.1 hp).1

/-- An own name as it is spelled is an own name when it is read. -/
theorem own_of_spelling {piece : List Char} {c : String × String} (h : pair? piece = some c)
    (hown : String.ofList (spelling piece) ∈ ownNames) : c.1 = String.ofList (spelling piece) := by
  have hplain : ∀ name ∈ ownNames, '%' ∉ name.toList := by decide
  have hdecode := (Http.decode_spelling h).2
  rw [Percent.decodeText?_of_not_mem (hplain _ hown)] at hdecode
  exact (Option.some.inj hdecode).symm

/-- A cookie of the gateway whose name is spelled with an escape. -/
def IsDisguised (header : String) (c : String × String) : Prop :=
  ∃ piece ∈ trimmedPieces header.toList, pair? piece = some c ∧ c.1 ∈ ownNames ∧
    spelling piece ≠ c.1.toList

/-- Of the gateway's cookies only a piece is passed on that spells the name in another way. -/
theorem isForwarded_iff_of_pair? {piece : List Char} {c : String × String}
    (h : pair? piece = some c) :
    isForwarded piece = true ↔ (c.1 ∈ ownNames → spelling piece ≠ c.1.toList) := by
  rw [isForwarded_iff]
  constructor
  · rintro ⟨-, hspelling⟩ hown hsame
    rw [hsame, String.ofList_toList] at hspelling
    exact hspelling hown
  · intro hdisguised
    refine ⟨(Http.decode_spelling h).1, ?_⟩
    intro hown
    have hname := own_of_spelling h hown
    refine hdisguised (hname ▸ hown) ?_
    rw [hname, String.toList_ofList]

/-- What is left are the other cookies, and the gateway's in disguise. -/
theorem mem_leftCookies_iff {header : String} {c : String × String} :
    c ∈ leftCookies header ↔
      (c ∈ cookiePairs header ∧ c.1 ∉ ownNames) ∨ IsDisguised header c := by
  rw [leftCookies_eq, Http.cookiePairs_eq, forwardedPieces]
  simp only [List.mem_filterMap, List.mem_filter]
  constructor
  · rintro ⟨piece, ⟨hpiece, hforwarded⟩, hpair⟩
    by_cases hown : c.1 ∈ ownNames
    · exact .inr ⟨piece, hpiece, hpair, hown, (isForwarded_iff_of_pair? hpair).1 hforwarded hown⟩
    · exact .inl ⟨⟨piece, hpiece, hpair⟩, hown⟩
  · rintro (⟨⟨piece, hpiece, hpair⟩, hown⟩ | ⟨piece, hpiece, hpair, -, hspelling⟩)
    · refine ⟨piece, ⟨hpiece, (isForwarded_iff_of_pair? hpair).2 ?_⟩, hpair⟩
      intro h
      exact absurd h hown
    · exact ⟨piece, ⟨hpiece, (isForwarded_iff_of_pair? hpair).2 fun _ => hspelling⟩, hpair⟩

theorem filter_leftCookies (header : String) :
    (leftCookies header).filter (fun c => c.1 ∉ ownNames) =
      (cookiePairs header).filter fun c => c.1 ∉ ownNames := by
  rw [leftCookies_eq, forwardedPieces, Http.cookiePairs_eq, List.filterMap_filter,
    List.filter_filterMap, List.filter_filterMap]
  congr 1
  funext piece
  cases hpair : pair? piece with
  | none => simp
  | some c =>
      by_cases hown : c.1 ∈ ownNames
      · split
        · rfl
        · simp [Option.filter, hown]
      · rw [if_pos ((isForwarded_iff_of_pair? hpair).2 fun h => absurd h hown)]

theorem not_disguised_of_plain {header : String} (h : '%' ∉ header.toList) (c : String × String) :
    ¬ IsDisguised header c := by
  rintro ⟨piece, hpiece, hpair, -, hspelling⟩
  have hplain : '%' ∉ (String.ofList (spelling piece)).toList := by
    rw [String.toList_ofList]
    intro hmem
    obtain ⟨q, hq, rfl⟩ := List.mem_map.1 hpiece
    have hbefore := Blank.mem_of_mem_trimBy hmem
    have hin := Blank.mem_of_mem_trimBy ((List.takeWhile_prefix _).subset hbefore)
    exact h (Split.mem_of_mem_pieces hq hin).1
  have hdecode := (Http.decode_spelling hpair).2
  rw [Percent.decodeText?_of_not_mem hplain] at hdecode
  apply hspelling
  rw [← Option.some.inj hdecode, String.toList_ofList]

/-- All of the gateway's cookies are taken out exactly where none is disguised. -/
theorem leftCookies_eq_iff {header : String} :
    leftCookies header = (cookiePairs header).filter (fun c => c.1 ∉ ownNames) ↔
      ∀ c, ¬ IsDisguised header c := by
  constructor
  · intro heq c hdisguised
    have hmem := mem_leftCookies_iff.2 (.inr hdisguised)
    rw [heq, List.mem_filter] at hmem
    obtain ⟨_, _, _, hown, _⟩ := hdisguised
    exact absurd hown (by simpa using hmem.2)
  · intro hnone
    rw [← filter_leftCookies, eq_comm, List.filter_eq_self]
    intro c hc
    cases mem_leftCookies_iff.1 hc with
    | inl hother => simpa using hother.2
    | inr hdisguised => exact absurd hdisguised (hnone c)

/-- What becomes of the cookies of a header text that is passed on. -/
structure Withholds (header : String) : Prop where
  order : (leftCookies header).Sublist (cookiePairs header)
  others : (leftCookies header).filter (fun c => c.1 ∉ ownNames) =
    (cookiePairs header).filter fun c => c.1 ∉ ownNames
  own : ∀ c, c.1 ∈ ownNames → (c ∈ leftCookies header ↔ IsDisguised header c)
  complete : leftCookies header = (cookiePairs header).filter (fun c => c.1 ∉ ownNames) ↔
    ∀ c, ¬ IsDisguised header c
  /-- In particular where nothing is escaped. -/
  plain : '%' ∉ header.toList →
    leftCookies header = (cookiePairs header).filter fun c => c.1 ∉ ownNames

/-- Of every cookie header all cookies are passed on, in their order, but those
of the gateway whose names are spelled without escapes. -/
theorem own_cookies_left_iff_disguised (header : String) : Withholds header where
  order := by
    rw [leftCookies_eq, Http.cookiePairs_eq]
    exact List.filter_sublist.filterMap pair?
  others := filter_leftCookies header
  own := by
    intro c hown
    rw [mem_leftCookies_iff, or_iff_right]
    exact fun hother => hother.2 hown
  complete := leftCookies_eq_iff
  plain := fun h => leftCookies_eq_iff.2 (not_disguised_of_plain h)

/-- An escape in its name keeps a session cookie from being taken out. -/
theorem disguised_session_is_left :
    ¬ ∀ header : String, (∀ c ∈ header.toList, 0x20 ≤ c.toNat ∧ c.toNat ≤ 0x7E ∨ c = '\t') →
      leftCookies header = (cookiePairs header).filter fun c => c.1 ∉ ownNames := by
  intro h
  have hleft := h "a=1; %73ession=x" (by simp)
  revert hleft
  decide +kernel

end CookieIssuer

end AuthGateway
