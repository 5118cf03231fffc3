import AuthGateway.Proofs.Configuration
import AuthGateway.Proofs.UpstreamUrl
import Mathlib.Data.List.Nodup

/-!
Which route takes a path. A prefix stands for the segments that a path has to begin
with, and of the routes whose prefixes do, the one with the longest prefix is taken. The
order in which routes are configured tells only between routes with the same prefix.
-/
namespace AuthGateway

namespace Route

variable {root path rest : List Char}

theorem strip?_eq_some_iff : strip? root path = some rest ↔ path = root ++ rest := by
  fun_induction strip? root path with
  | case1 path => simp [eq_comm]
  | case2 => simp
  | case3 a root path ih => simp [ih]
  | case4 a root b path hne => simp [Ne.symm hne]

/-- Every path is under the root, and under another prefix if that ends where a segment does. -/
theorem isUnder_iff :
    isUnder root path = true ↔ root = ['/'] ∨
      ∃ rest, path = root ++ rest ∧ (rest = [] ∨ rest.head? = some '/' ∨ root.getLast? = some '/') := by
  unfold isUnder
  split
  · next hroot => simp [hroot]
  · next hroot =>
      cases hstrip : strip? root path with
      | none => simp [hroot, ← strip?_eq_some_iff, hstrip]
      | some rest => simp [hroot, ← strip?_eq_some_iff, hstrip, or_assoc]

/-- A prefix that does not end at a slash stands for its segments. -/
theorem isUnder_iff_pieces (hroot : root.getLast? ≠ some '/') :
    isUnder root path = true ↔ Split.pieces '/' root <+: Split.pieces '/' path := by
  have hslash : root ≠ ['/'] := by
    rintro rfl
    exact hroot rfl
  rw [isUnder_iff, Split.pieces_isPrefix_iff]
  constructor
  · rintro (h | ⟨rest, rfl, rfl | hhead | hlast⟩)
    · exact absurd h hslash
    · exact .inl (List.append_nil root)
    · obtain ⟨tail, rfl⟩ := List.head?_eq_some_iff.1 hhead
      exact .inr ⟨tail, by simp⟩
    · exact absurd hlast hroot
  · rintro (rfl | ⟨tail, rfl⟩)
    · exact .inr ⟨[], (List.append_nil _).symm, .inl rfl⟩
    · exact .inr ⟨'/' :: tail, by simp, .inr (.inl rfl)⟩

theorem isPrefix_of_isUnder (hpath : path.head? = some '/') (h : isUnder root path = true) :
    root <+: path := by
  rcases isUnder_iff.1 h with rfl | ⟨rest, rfl, -⟩
  · obtain ⟨tail, rfl⟩ := List.head?_eq_some_iff.1 hpath
    exact ⟨tail, rfl⟩
  · exact List.prefix_append root rest

/-- Of two prefixes of a path, the one that takes no more bytes is a prefix of the other. -/
theorem isPrefix_of_size_le {a b : String} (ha : a.toList <+: path) (hb : b.toList <+: path)
    (h : Utf8.size a ≤ Utf8.size b) : a.toList <+: b.toList := by
  rcases List.prefix_or_prefix_of_prefix ha hb with hab | ⟨rest, hrest⟩
  · exact hab
  · have hsize : Utf8.size a = Utf8.size b + (Utf8.encodeChars rest).length := by
      simp only [Utf8.size, Utf8.encode, ← hrest, Utf8.encodeChars_append, List.length_append]
    have hlength := Utf8.length_le_length_encodeChars rest
    have hnil : rest = [] := List.eq_nil_of_length_eq_zero (by omega)
    have hsame : a.toList = b.toList := by rw [← hrest, hnil, List.append_nil]
    exact hsame ▸ List.prefix_rfl

end Route

namespace RouteTable

/-! The order of the table. -/

def Descends (routes : List Route) : Prop :=
  routes.Pairwise fun r s => Utf8.size s.pathPrefix ≤ Utf8.size r.pathPrefix

def hasSize (n : Nat) (r : Route) : Bool :=
  Utf8.size r.pathPrefix == n

variable {l routes routes' : List Route} {r s : Route} {path : String}

/-- A route is put where the order by length stays. -/
theorem descends_insertByLength (h : Descends l) : Descends (r.insertByLength l) := by
  induction l with
  | nil => exact List.pairwise_singleton _ r
  | cons s rest ih =>
      obtain ⟨hhead, hrest⟩ := List.pairwise_cons.1 h
      unfold Route.insertByLength
      split
      · next hle =>
          refine List.pairwise_cons.2 ⟨fun t ht => ?_, ih hrest⟩
          cases List.mem_cons.1 ((perm_insertByLength r rest).subset ht) with
          | inl heq => exact heq ▸ hle
          | inr hmem => exact hhead t hmem
      · next hlt =>
          refine List.pairwise_cons.2 ⟨fun t ht => ?_, h⟩
          cases List.mem_cons.1 ht with
          | inl heq => rw [heq]; omega
          | inr hmem => exact Nat.le_trans (hhead t hmem) (by omega)

/-- Among routes with prefixes of one size, a new one comes last. -/
theorem filter_insertByLength (h : Descends l) (n : Nat) :
    (r.insertByLength l).filter (hasSize n) = (l ++ [r]).filter (hasSize n) := by
  induction l with
  | nil => rfl
  | cons s rest ih =>
      obtain ⟨hhead, hrest⟩ := List.pairwise_cons.1 h
      unfold Route.insertByLength
      split
      · rw [List.filter_cons, ih hrest, List.cons_append, List.filter_cons]
      · next hlt =>
          by_cases hr : hasSize n r = true
          · -- all the others are shorter, so that the new one is the only one of its size
            have hnone : (s :: rest).filter (hasSize n) = [] := by
              refine List.filter_eq_nil_iff.2 fun t ht => ?_
              have hle : Utf8.size t.pathPrefix ≤ Utf8.size s.pathPrefix := by
                cases List.mem_cons.1 ht with
                | inl heq => exact heq ▸ Nat.le_refl _
                | inr hmem => exact hhead t hmem
              simp only [hasSize, beq_iff_eq] at hr ⊢
              omega
            rw [List.filter_cons_of_pos hr, List.filter_append, hnone, List.filter_cons_of_pos hr]
            rfl
          · rw [List.filter_cons_of_neg hr, List.filter_append, List.filter_cons_of_neg hr,
              List.filter_nil, List.append_nil]

theorem descends_routes_ofRoutes (routes : List Route) : Descends (ofRoutes routes).routes := by
  suffices hfold : ∀ sorted, Descends sorted →
      Descends (routes.foldl (fun sorted r => r.insertByLength sorted) sorted) from
    hfold [] List.Pairwise.nil
  induction routes with
  | nil => exact fun _ h => h
  | cons r rest ih => exact fun _ h => ih _ (descends_insertByLength h)

/-- The order of routes with equally long prefixes stays. -/
theorem filter_routes_ofRoutes (routes : List Route) (n : Nat) :
    (ofRoutes routes).routes.filter (hasSize n) = routes.filter (hasSize n) := by
  suffices hfold : ∀ sorted, Descends sorted →
      (routes.foldl (fun sorted r => r.insertByLength sorted) sorted).filter (hasSize n) =
        (sorted ++ routes).filter (hasSize n) from
    hfold [] List.Pairwise.nil
  induction routes with
  | nil => exact fun sorted _ => by rw [List.foldl_nil, List.append_nil]
  | cons r rest ih =>
      intro sorted h
      rw [List.foldl_cons, ih _ (descends_insertByLength h), List.filter_append,
        filter_insertByLength h, ← List.filter_append, List.append_assoc]
      rfl

theorem find?_prefix_ofRoutes (routes : List Route) (root : String) :
    (ofRoutes routes).routes.find? (fun s => s.pathPrefix == root) =
      routes.find? fun s => s.pathPrefix == root := by
  have hsized (l : List Route) : l.find? (fun s => s.pathPrefix == root) =
      (l.filter (hasSize (Utf8.size root))).find? fun s => s.pathPrefix == root := by
    rw [List.find?_filter]
    congr 1
    funext s
    by_cases hs : s.pathPrefix = root
    · simp [hasSize, hs]
    · simp [hs]
  rw [hsized, filter_routes_ofRoutes, ← hsized]

/-! The route that is taken. -/

/-- A route that matches a path, such that no other one that does has a longer prefix, and
none with the same prefix was configured before. -/
structure Wins (routes : List Route) (path : String) (r : Route) : Prop where
  isMatch : r.isMatch path = true
  longest : ∀ s ∈ routes, s.isMatch path = true →
    Utf8.size s.pathPrefix ≤ Utf8.size r.pathPrefix ∧ s.pathPrefix.length ≤ r.pathPrefix.length
  first : routes.find? (fun s => s.pathPrefix == r.pathPrefix) = some r

theorem isMatch_congr (h : r.pathPrefix = s.pathPrefix) : r.isMatch path = s.isMatch path := by
  rw [Route.isMatch, h, Route.isMatch]

theorem Wins.mem (h : Wins routes path r) : r ∈ routes :=
  List.mem_of_find?_eq_some h.first

section Rooted

variable (hpath : path.toList.head? = some '/')

include hpath

theorem isPrefix_of_isMatch (h : r.isMatch path = true) : r.pathPrefix.toList <+: path.toList :=
  Route.isPrefix_of_isUnder hpath h

theorem length_le_of_size_le (hs : s.isMatch path = true) (hr : r.isMatch path = true)
    (h : Utf8.size s.pathPrefix ≤ Utf8.size r.pathPrefix) :
    s.pathPrefix.length ≤ r.pathPrefix.length := by
  have hprefix := Route.isPrefix_of_size_le (isPrefix_of_isMatch hpath hs)
    (isPrefix_of_isMatch hpath hr) h
  rw [← String.length_toList, ← String.length_toList]
  exact hprefix.length_le

theorem Wins.unique (h : Wins routes path r) (h' : Wins routes path s) : r = s := by
  have hr := isPrefix_of_isMatch hpath h.isMatch
  have hs := isPrefix_of_isMatch hpath h'.isMatch
  have hrs := Route.isPrefix_of_size_le hr hs (h'.longest r h.mem h.isMatch).1
  have hsr := Route.isPrefix_of_size_le hs hr (h.longest s h'.mem h'.isMatch).1
  have hsame : r.pathPrefix = s.pathPrefix :=
    String.toList_inj.1 (hrs.eq_of_length_le hsr.length_le)
  have hfirst := h.first
  rw [hsame, h'.first] at hfirst
  exact (Option.some.inj hfirst).symm

/-- The first route that matches is the one that wins. -/
theorem wins_of_find? (h : (ofRoutes routes).find? path = some r) : Wins routes path r := by
  obtain ⟨hmatch, before, behind, hsplit, hbefore⟩ := List.find?_eq_some_iff_append.1 h
  refine ⟨hmatch, fun s hs hsmatch => ?_, ?_⟩
  · have hmem : s ∈ before ++ r :: behind := by
      rw [← hsplit]
      exact (perm_routes_ofRoutes routes).mem_iff.2 hs
    have hsize : Utf8.size s.pathPrefix ≤ Utf8.size r.pathPrefix := by
      have hdescends := descends_routes_ofRoutes routes
      rw [hsplit, Descends, List.pairwise_append, List.pairwise_cons] at hdescends
      rcases List.mem_append.1 hmem with hs | hs
      · exact absurd hsmatch (by simpa using hbefore s hs)
      · cases List.mem_cons.1 hs with
        | inl heq => exact heq ▸ Nat.le_refl _
        | inr hs => exact hdescends.2.1.1 s hs
    exact ⟨hsize, length_le_of_size_le hpath hsmatch hmatch hsize⟩
  · rw [← find?_prefix_ofRoutes]
    refine List.find?_eq_some_iff_append.2 ⟨by simp, before, behind, hsplit, fun s hs => ?_⟩
    have hother := hbefore s hs
    rw [Bool.not_eq_true', beq_eq_false_iff_ne]
    intro hsame
    rw [isMatch_congr hsame, hmatch] at hother
    cases hother

/-- The table finds the route that wins. -/
theorem find?_eq_some_iff_wins : (ofRoutes routes).find? path = some r ↔ Wins routes path r := by
  refine ⟨wins_of_find? hpath, fun h => ?_⟩
  cases hfind : (ofRoutes routes).find? path with
  | none =>
      have hmem := (perm_routes_ofRoutes routes).mem_iff.2 h.mem
      exact absurd h.isMatch (List.find?_eq_none.1 hfind r hmem)
  | some s => rw [(wins_of_find? hpath hfind).unique hpath h]

end Rooted

theorem find?_eq_none_iff :
    (ofRoutes routes).find? path = none ↔ ∀ r ∈ routes, r.isMatch path = false := by
  simp only [find?, List.find?_eq_none, (perm_routes_ofRoutes routes).mem_iff, Bool.not_eq_true]

/-- Where no two routes have the same prefix, being the first with it is being one of them. -/
theorem find?_prefix_of_nodup (hdistinct : (routes.map Route.pathPrefix).Nodup) (hr : r ∈ routes) :
    routes.find? (fun s => s.pathPrefix == r.pathPrefix) = some r := by
  cases hfind : routes.find? fun s => s.pathPrefix == r.pathPrefix with
  | none => exact absurd (List.find?_eq_none.1 hfind r hr) (by simp)
  | some s =>
      have hsame : s.pathPrefix = r.pathPrefix := by simpa using List.find?_some hfind
      rw [List.inj_on_of_nodup_map hdistinct (List.mem_of_find?_eq_some hfind) hr hsame]

theorem Wins.perm (h : Wins routes path r) (hperm : routes'.Perm routes)
    (hdistinct : (routes.map Route.pathPrefix).Nodup) : Wins routes' path r where
  isMatch := h.isMatch
  longest := fun s hs => h.longest s (hperm.mem_iff.1 hs)
  first := find?_prefix_of_nodup ((hperm.map _).nodup_iff.2 hdistinct) (hperm.mem_iff.2 h.mem)

/-- With distinct prefixes, the order of the configuration does not decide on the route of a path. -/
theorem find?_perm (hpath : path.toList.head? = some '/') (hperm : routes'.Perm routes)
    (hdistinct : (routes.map Route.pathPrefix).Nodup) :
    (ofRoutes routes').find? path = (ofRoutes routes).find? path := by
  cases hfind : (ofRoutes routes).find? path with
  | none =>
      rw [find?_eq_none_iff] at hfind ⊢
      exact fun r hr => hfind r (hperm.mem_iff.1 hr)
  | some r =>
      rw [find?_eq_some_iff_wins hpath] at hfind ⊢
      exact hfind.perm hperm hdistinct

/-- A path is taken by the route that wins, and by none exactly if none matches. To match is
to begin with the segments of the prefix, for prefixes that do not end at a slash. Where
prefixes are distinct, the order of the configuration does not matter. -/
theorem longest_prefix_wins (routes : List Route) {path : String}
    (hpath : path.toList.head? = some '/') :
    ((ofRoutes routes).find? path = none ↔ ∀ r ∈ routes, r.isMatch path = false) ∧
      (∀ r, (ofRoutes routes).find? path = some r ↔ Wins routes path r) ∧
      (∀ r : Route, r.pathPrefix.toList.getLast? ≠ some '/' → (r.isMatch path = true ↔
        Split.pieces '/' r.pathPrefix.toList <+: Split.pieces '/' path.toList)) ∧
      ((routes.map Route.pathPrefix).Nodup → ∀ routes' : List Route, routes'.Perm routes →
        (ofRoutes routes').find? path = (ofRoutes routes).find? path) :=
  ⟨find?_eq_none_iff, fun _ => find?_eq_some_iff_wins hpath,
    fun _ hroot => Route.isUnder_iff_pieces hroot,
    fun hdistinct _ hperm => find?_perm hpath hperm hdistinct⟩

def routeUnder (root : String) : Route :=
  { Route.openRoute Route.loopback with name := root, pathPrefix := root }

/-- The prefix with the most segments wins, wherever it stands in the configuration. -/
theorem deepest_route_wins :
    "/api/users/7".toList.head? = some '/' ∧
      ([routeUnder "/", routeUnder "/api/users", routeUnder "/api"].map Route.pathPrefix).Nodup ∧
      Wins [routeUnder "/", routeUnder "/api/users", routeUnder "/api"] "/api/users/7"
        (routeUnder "/api/users") ∧
      (ofRoutes [routeUnder "/api", routeUnder "/", routeUnder "/api/users"]).find?
        "/api/users/7" = some (routeUnder "/api/users") := by
  have hpath : "/api/users/7".toList.head? = some '/' := by decide
  have hdistinct : ([routeUnder "/", routeUnder "/api/users", routeUnder "/api"].map
      Route.pathPrefix).Nodup := by decide
  have hperm : [routeUnder "/api", routeUnder "/", routeUnder "/api/users"].Perm
      [routeUnder "/", routeUnder "/api/users", routeUnder "/api"] := by
    show ([routeUnder "/api"] ++ [routeUnder "/", routeUnder "/api/users"]).Perm _
    exact List.perm_append_comm
  obtain ⟨-, hwins, -, hany⟩ := longest_prefix_wins
    [routeUnder "/", routeUnder "/api/users", routeUnder "/api"] hpath
  have hfind : (ofRoutes [routeUnder "/", routeUnder "/api/users", routeUnder "/api"]).find?
      "/api/users/7" = some (routeUnder "/api/users") := by decide +kernel
  exact ⟨hpath, hdistinct, (hwins _).1 hfind, (hany hdistinct _ hperm).trans hfind⟩

end RouteTable

end AuthGateway
