import AuthGateway.Proofs.CleanUrl
import AuthGateway.Proofs.LongLabels
import AuthGateway.Route.Table
import Mathlib.Data.List.DropRight

/-!
URLs of upstreams. The URL of an upstream without its trailing slashes, and behind it
a canonical path, make a text of which nothing is resolved or escaped when it is read:
the authority of the upstream ends where the path begins, and the segments are those
of both.
-/
namespace AuthGateway

namespace Route

open Url (Authority Host ParseError)
open Url.Segments (IsResolved)

/-! Slashes at the end. -/

theorem withoutEndSlashes_eq (cs : List Char) : withoutEndSlashes cs = cs.rdropWhile (· == '/') :=
  rfl

/-- The empty segments at the end of a path are its slashes there. -/
theorem withoutEndSlashes_chars {front : List Char} (hfront : ∀ c ∈ front.getLast?, c ≠ '/')
    {segments : List (List Char)} (h : ∀ s ∈ segments, '/' ∉ s) :
    withoutEndSlashes (front ++ Url.Segments.chars segments) =
      front ++ Url.Segments.chars (segments.rdropWhile List.isEmpty) := by
  rw [withoutEndSlashes_eq]
  -- From the last segment on, as slashes are taken off there.
  induction segments using List.reverseRecOn with
  | nil =>
      rw [List.rdropWhile_nil, Url.Segments.chars, List.flatMap_nil, List.append_nil,
        List.rdropWhile_eq_self_iff]
      exact fun hne hslash => hfront _ (List.getLast?_eq_some_getLast hne) (by simpa using hslash)
  | append_singleton segments s ih =>
      have hchars : front ++ Url.Segments.chars (segments ++ [s]) =
          front ++ Url.Segments.chars segments ++ '/' :: s := by
        simp [Url.Segments.chars]
      rcases List.eq_nil_or_concat s with rfl | ⟨s, c, rfl⟩
      · rw [hchars, List.rdropWhile_concat_pos _ _ _ (by simp),
          List.rdropWhile_concat_pos _ _ _ (by simp),
          ih fun t ht => h t (List.mem_append_left _ ht)]
      · have hc : c ≠ '/' := fun heq => h (s.concat c) (by simp) (by simp [heq])
        rw [List.rdropWhile_concat_neg _ _ (s.concat c) (by simp), hchars, List.concat_eq_append,
          ← List.cons_append, ← List.append_assoc,
          List.rdropWhile_concat_neg _ _ c (by simpa using hc)]

/-! The URL behind a base. -/

/-- A URL is another one, a path behind its own, and a query. -/
structure LeadsBelow (base : Url) (path query : String) (u : Url) : Prop where
  scheme : u.scheme = base.scheme
  authority : u.authority = base.authority
  path : u.pathChars = withoutEndSlashes base.pathChars ++ path.toList
  query : u.query.isSome = !query.isEmpty
  fragment : u.fragment = none

theorem canonical_segments {p n : String} (h : normalizePath p = .ok n) :
    ∃ segments, n.toList = Url.Segments.chars segments ∧ segments ≠ [] ∧
      ∀ s ∈ segments, IsResolved s := by
  obtain ⟨cs, -, hcanonical, hhead⟩ := normalizePath_eq_ok_iff.1 h
  obtain ⟨segments, hchars, hresolved⟩ := canonicalChars_eq cs
  refine ⟨segments, hcanonical.symm.trans hchars, ?_, hresolved⟩
  rintro rfl
  rw [← hcanonical, hchars] at hhead
  cases hhead

/-- The base in front of a path ends behind the last segment that is not empty. -/
theorem withoutEndSlashes_render {u : Url} {a : Authority} {segments : List (List Char)}
    (hweb : u.scheme = .http ∨ u.scheme = .https) (ha : a.IsRead u.scheme)
    (hauthority : u.authority = some a) (hpath : u.path = .segments segments)
    (hresolved : ∀ s ∈ segments, IsResolved s) (hne : segments ≠ [])
    (hquery : u.query = none) (hfragment : u.fragment = none) :
    withoutEndSlashes u.chars = u.scheme.chars ++ ':' :: '/' :: '/' :: a.chars ++
      Url.Segments.chars (segments.rdropWhile List.isEmpty) := by
  let w := Url.WebText.ofParts hweb ha hne
  have hchars : u.chars = w.front ++ Url.Segments.chars segments := by
    rw [Url.WebText.front_ofParts, Url.chars, Url.originChars, Url.tailChars, hauthority, hquery,
      hfragment, Url.pathChars_of_segments hauthority hpath]
    exact List.append_nil _
  have hfront : ∀ c ∈ w.front.getLast?, c ≠ '/' := by
    rintro c hc rfl
    exact (w.plain_of_mem_place (w.mem_place_of_last hc)).2 (by decide)
  rw [hchars, withoutEndSlashes_chars hfront fun s hs hslash =>
    ((hresolved s hs).kept _ hslash).2.1 rfl, Url.WebText.front_ofParts]

variable {r : Route} {configured p n : String}

/-- The text that is read for a request has the authority of the upstream and nothing
but segments behind it, so that only the text of the host can be refused. -/
theorem upstreamUrl_eq (hread : Url.parse configured = .ok r.upstream)
    (hweb : r.upstream.scheme = .http ∨ r.upstream.scheme = .https)
    (hquery : r.upstream.query = none) (hfragment : r.upstream.fragment = none)
    (hn : normalizePath p = .ok n) :
    ∃ (a : Authority) (segments : List (List Char)), r.upstream.authority = some a ∧
      (∃ text, Host.special text = .ok a.host) ∧
      Url.Segments.chars segments = withoutEndSlashes r.upstream.pathChars ++ n.toList ∧
      ∀ q : String, r.upstreamUrl n q = (Host.special a.host.chars).map fun host =>
        let url : Url := ⟨r.upstream.scheme, some { a with host }, .segments segments, none, none⟩
        if q.isEmpty then url else url.setQuery q := by
  obtain ⟨a, text, ha, hauthority, hpath⟩ := Url.parts_of_parse hread hweb
  obtain ⟨behind, hbehind, hne, hresolved⟩ := canonical_segments hn
  have hfront : ∀ s ∈ Url.Segments.ofChars true text, IsResolved s :=
    fun s hs => Url.Segments.isResolved_of_mem_ofChars hs
  have hbase := withoutEndSlashes_render hweb ha hauthority hpath hfront
    (Url.Segments.ofChars_ne_nil true text) hquery hfragment
  have hempty : ∀ c ∈ ([] : List Char).getLast?, c ≠ '/' := by simp
  have hown := withoutEndSlashes_chars hempty fun s hs hslash =>
    ((hfront s hs).kept _ hslash).2.1 rfl
  -- The slashes that are taken off are segments without text, so the rest is segments again.
  let all := (Url.Segments.ofChars true text).rdropWhile List.isEmpty ++ behind
  have hall : ∀ s ∈ all, IsResolved s := by
    intro s hs
    rcases List.mem_append.1 hs with hs | hs
    · exact hfront s ((List.rdropWhile_prefix _ _).subset hs)
    · exact hresolved s hs
  have hallne : all ≠ [] := List.append_ne_nil_of_right_ne_nil _ hne
  have hchars : Url.Segments.chars all =
      Url.Segments.chars ((Url.Segments.ofChars true text).rdropWhile List.isEmpty) ++ n.toList := by
    rw [hbehind]
    exact List.flatMap_append
  have htext : String.ofList (withoutEndSlashes r.upstream.chars) ++ n =
      (Url.WebText.ofParts hweb ha hallne).text := by
    rw [← String.toList_inj, String.toList_append, String.toList_ofList, Url.WebText.text,
      String.toList_ofList, hbase, Url.WebText.chars_ofParts, hchars, List.append_assoc]
  refine ⟨a, all, hauthority, ha.host, ?_, fun q => ?_⟩
  · rw [hchars, Url.pathChars_of_segments hauthority hpath]
    rw [List.nil_append, List.nil_append] at hown
    rw [hown]
  · rw [upstreamUrl, htext, Url.parse_ofParts hweb ha hallne hall]
    cases Host.special a.host.chars <;> rfl

/-- No label of the host of a URL is too long to be decoded. -/
def HasShortHost (u : Url) : Prop :=
  ∀ a ∈ u.authority, a.host.HasShortLabels

theorem leadsBelow_of_segments {base : Url} {segments : List (List Char)}
    (hauthority : base.authority.isSome)
    (hpath : Url.Segments.chars segments = withoutEndSlashes base.pathChars ++ n.toList) (q : String) :
    let url : Url := ⟨base.scheme, base.authority, .segments segments, none, none⟩
    LeadsBelow base n q (if q.isEmpty then url else url.setQuery q) := by
  obtain ⟨a, ha⟩ := Option.isSome_iff_exists.1 hauthority
  have hchars (u : Url) (hu : u.authority = some a) (hsegments : u.path = .segments segments) :
      u.pathChars = withoutEndSlashes base.pathChars ++ n.toList :=
    (Url.pathChars_of_segments hu hsegments).trans hpath
  dsimp only
  split
  · next hempty => exact ⟨rfl, rfl, hchars _ ha rfl, by simp [hempty], rfl⟩
  · next hsome => exact ⟨rfl, rfl, hchars _ ha rfl, by simp [hsome, Url.setQuery], rfl⟩

section Requests

variable (hread : Url.parse configured = .ok r.upstream)
  (hweb : r.upstream.scheme = .http ∨ r.upstream.scheme = .https)
  (hquery : r.upstream.query = none) (hfragment : r.upstream.fragment = none)
  (hn : normalizePath p = .ok n) (q : String)

include hread hweb hquery hfragment hn

theorem upstreamUrl_of_short_host (hshort : HasShortHost r.upstream) :
    ∃ u, r.upstreamUrl n q = .ok u ∧ LeadsBelow r.upstream n q u := by
  obtain ⟨a, segments, hauthority, ⟨text, htext⟩, hpath, hurl⟩ :=
    upstreamUrl_eq hread hweb hquery hfragment hn
  refine ⟨_, ?_, leadsBelow_of_segments (Option.isSome_iff_exists.2 ⟨a, hauthority⟩) hpath q⟩
  rw [hurl, Host.special_chars htext, if_pos (hshort a hauthority), hauthority]
  rfl

theorem upstreamUrl_of_long_host (hlong : ¬ HasShortHost r.upstream) :
    r.upstreamUrl n q = .error .invalidDomain := by
  obtain ⟨a, segments, hauthority, ⟨text, htext⟩, -, hurl⟩ :=
    upstreamUrl_eq hread hweb hquery hfragment hn
  have hlong : ¬ a.host.HasShortLabels := by
    simpa [HasShortHost, hauthority] using hlong
  rw [hurl, Host.special_chars htext, if_neg hlong]
  rfl

/-- The URL of a request has the authority of the upstream, whatever the path and the
query are, and the path behind that of the upstream, as it is. There is one unless a
label of the host is too long to be read again. -/
theorem upstreamUrl_leadsBelow :
    (HasShortHost r.upstream →
        ∃ u, r.upstreamUrl n q = .ok u ∧ LeadsBelow r.upstream n q u) ∧
      (¬ HasShortHost r.upstream → r.upstreamUrl n q = .error .invalidDomain) :=
  ⟨upstreamUrl_of_short_host hread hweb hquery hfragment hn q,
    upstreamUrl_of_long_host hread hweb hquery hfragment hn q⟩

end Requests

def openRoute (upstream : Url) : Route :=
  ⟨"all", "/", upstream, ⟨.none, true, 0, 0, [], [], []⟩⟩

def loopback : Url :=
  ⟨.http, some ⟨[], none, .ipv6 [0, 0, 0, 0, 0, 0, 0, 1], some 3000⟩,
    .segments ["up".toList, [], []], none, none⟩

/-- A path that looks like another authority is a path. -/
theorem loopback_keeps_authority :
    Url.parse "http://[::1]:3000/up//" = .ok (openRoute loopback).upstream ∧
      normalizePath "//user@other:80/b" = .ok "//user@other:80/b" ∧
      ∃ u, (openRoute loopback).upstreamUrl "//user@other:80/b" "q=1" = .ok u ∧
        LeadsBelow loopback "//user@other:80/b" "q=1" u := by
  have hread : Url.parse "http://[::1]:3000/up//" = .ok (openRoute loopback).upstream := by
    decide +kernel
  have hn : normalizePath "//user@other:80/b" = .ok "//user@other:80/b" := by
    decide +kernel
  have hshort : HasShortHost (openRoute loopback).upstream := by
    intro a ha
    obtain rfl := Option.some.inj ha
    trivial
  exact ⟨hread, hn, (upstreamUrl_leadsBelow hread (.inl rfl) rfl rfl hn "q=1").1 hshort⟩

/-- There are upstreams that are read, and have no URL for any request: the host has a
label that is encoded and not decoded. -/
theorem long_label_leads_nowhere : ∃ r : Route,
    Url.parse (Url.siteText Url.longLabel) = .ok r.upstream ∧ r.upstream.scheme = .http ∧
      r.upstream.query = none ∧ r.upstream.fragment = none ∧ normalizePath "/" = .ok "/" ∧
      ∀ q, r.upstreamUrl "/" q = .error .invalidDomain := by
  let host : Host := .domain (Url.Label.mark ++ Url.Punycode.encode Url.longLabel)
  have hread : Url.parse (Url.siteText Url.longLabel) = .ok (openRoute (Url.site host)).upstream :=
    Url.parse_siteText_ideographs Url.isIdeograph_longLabel Url.longLabel_ne_nil
      (by rw [Url.length_longLabel]; decide)
  have hn : normalizePath "/" = .ok "/" := rfl
  have hlong : ¬ HasShortHost (openRoute (Url.site host)).upstream := fun hshort =>
    Url.not_hasShortLabels_longLabel (hshort _ rfl)
  exact ⟨openRoute (Url.site host), hread, rfl, rfl, rfl, hn, fun q =>
    upstreamUrl_of_long_host hread (.inl rfl) rfl rfl hn q hlong⟩

end Route

end AuthGateway
