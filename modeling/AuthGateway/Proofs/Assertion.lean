import AuthGateway.Proofs.Mediation

/-!
The identity that an upstream is told is the gateway's word alone. What a client
writes in headers for the host, for one connection, or for an identity makes no
difference, in whatever case it writes their names, and neither do the gateway's
own cookies: two clients that write the same apart from these get the same
headers sent to the upstream. All that is kept of the others are their values in
visible ASCII, every one of them and in order.
-/
namespace AuthGateway

namespace Http

/-- A header as a client writes it, with its name in any case. -/
structure HeaderLine where
  spelled : String
  value : HeaderValue
  isName : (HeaderName.ofText? spelled).isSome

namespace HeaderLine

def name (l : HeaderLine) : HeaderName :=
  ⟨Ascii.lower l.spelled⟩

theorem nameChars (l : HeaderLine) : l.spelled.toList.all HeaderName.isNameChar = true := by
  obtain ⟨spelled, -, h⟩ := l
  simp only [HeaderName.ofText?] at h
  split at h
  · next hname => exact hname.2.2
  · cases h

end HeaderLine

namespace Headers

def ofLines (lines : List HeaderLine) : Headers :=
  ⟨lines.map fun l => (l.name, l.value)⟩

/-- The same values of each name, in the same order. -/
def SameValues (h h' : Headers) : Prop :=
  ∀ name, h.values name = h'.values name

variable {h h' : Headers}

theorem mem_values_iff {name : HeaderName} {v : HeaderValue} :
    v ∈ h.values name ↔ (name, v) ∈ h.entries := by
  simp [values]

theorem values_append (xs ys : List (HeaderName × HeaderValue)) (name : HeaderName) :
    values ⟨xs ++ ys⟩ name = values ⟨xs⟩ name ++ values ⟨ys⟩ name := by
  rw [values, values, values, List.filter_append, List.map_append]

theorem values_filter (xs : List (HeaderName × HeaderValue)) (p : HeaderName × HeaderValue → Bool)
    (name : HeaderName) :
    values ⟨xs.filter p⟩ name = (values ⟨xs⟩ name).filter fun v => p (name, v) := by
  rw [values, values, List.filter_filter, List.filter_map, List.filter_filter]
  congr 1
  apply List.filter_congr
  rintro ⟨n, v⟩ -
  by_cases hn : n = name
  · subst hn
    simp
  · simp [beq_eq_false_iff_ne.2 hn]

theorem SameValues.mem_iff (hsame : h.SameValues h') {e : HeaderName × HeaderValue} :
    e ∈ h.entries ↔ e ∈ h'.entries := by
  obtain ⟨name, v⟩ := e
  rw [← mem_values_iff, ← mem_values_iff, hsame name]

end Headers

end Http

namespace Forwarding

open Http (HeaderLine HeaderName HeaderValue Headers)

/-- A name, in lower case, of headers that stay behind whatever they hold. -/
def StaysBehind (name : String) : Prop :=
  name = "host" ∨ identityPrefix.toList <+: name.toList ∨ name ∈ connectionHeaders

instance (name : String) : Decidable (StaysBehind name) :=
  inferInstanceAs (Decidable (_ ∨ _))

def leftOf? (v : HeaderValue) : Option HeaderValue :=
  (v.text?.bind CookieIssuer.withoutOwn?).map fun left => ⟨Utf8.encode left⟩

def shareOf? (name : HeaderName) (v : HeaderValue) : Option HeaderValue :=
  if StaysBehind name.text then none
  else if name = .cookie then leftOf? v
  else some v

/-- What is left of a client's headers once all that makes no difference is gone. -/
def shares (lines : List HeaderLine) : Headers :=
  ⟨lines.filterMap fun l => (shareOf? l.name l.value).map fun v => (l.name, v)⟩

/-- Cookie headers that are left are passed on, and others if they are text. -/
def isPassed (e : HeaderName × HeaderValue) : Bool :=
  e.1 == .cookie || e.2.text?.isSome

theorem foldChar_lowerChar {c : Char} (h : HeaderName.isNameChar c = true) :
    foldChar (Ascii.lowerChar c) = Ascii.lowerChar c := by
  have hkelvin : Ascii.lowerChar c ≠ '\u212A' := by
    rw [Ne, Ascii.lowerChar_eq_iff (by decide)]
    rintro rfl
    exact absurd h (by decide)
  rw [foldChar, if_neg hkelvin, Ascii.lowerChar_lowerChar]

theorem isConnectionHeader_iff (l : HeaderLine) :
    isConnectionHeader l.name.text = true ↔ l.name.text ∈ connectionHeaders := by
  have hfold : String.ofList (l.name.text.toList.map foldChar) = l.name.text := by
    rw [HeaderLine.name, Ascii.lower, String.toList_ofList, List.map_map]
    congr 1
    apply List.map_congr_left
    intro c hc
    exact foldChar_lowerChar (List.all_eq_true.1 l.nameChars c hc)
  rw [isConnectionHeader, hfold, List.contains_iff_mem]

theorem isDropped_iff (l : HeaderLine) : isDropped {} l.name = true ↔ StaysBehind l.name.text := by
  have hhost : l.name = .host ↔ l.name.text = "host" := by
    rw [HeaderName.host, Http.HeaderName.mk.injEq]
  simp only [isDropped, Bool.or_eq_true, Bool.true_and, beq_iff_eq, hhost, isIdentityHeader,
    List.isPrefixOf_iff_prefix, isConnectionHeader_iff, StaysBehind, or_assoc]

/-- A line is passed on as its share, if there is one that may be. -/
theorem requestHeader?_eq (l : HeaderLine) :
    requestHeader? {} (l.name, l.value) =
      ((shareOf? l.name l.value).map fun v => (l.name, v)).filter isPassed := by
  unfold requestHeader? shareOf?
  by_cases hbehind : StaysBehind l.name.text
  · rw [if_pos ((isDropped_iff l).2 hbehind), if_pos hbehind]
    rfl
  · rw [if_neg (mt (isDropped_iff l).1 hbehind), if_neg hbehind]
    -- what is left of a cookie header is passed on, any other header only if it is text
    by_cases hcookie : l.name = .cookie
    · rw [if_pos hcookie, leftOf?]
      cases l.value.text? with
      | none => rfl
      | some text =>
          refine (if_pos ⟨hcookie, rfl⟩).trans ?_
          rw [Option.bind_some]
          cases CookieIssuer.withoutOwn? text with
          | none => rfl
          | some left => exact (Option.filter_some_pos (by simp [isPassed, hcookie])).symm
    · rw [if_neg hcookie]
      cases htext : l.value.text? with
      | none => exact (Option.filter_some_neg (by simp [isPassed, hcookie, htext])).symm
      | some text =>
          refine (if_neg fun h => hcookie h.1).trans ?_
          exact (Option.filter_some_pos (by simp [isPassed, htext])).symm

/-- What is passed on of a client's headers depends on nothing but the shares. -/
theorem requestHeaders_ofLines (lines : List HeaderLine) :
    requestHeaders {} (.ofLines lines) = ⟨(shares lines).entries.filter isPassed⟩ := by
  rw [requestHeaders, Headers.ofLines, shares, List.filterMap_map, List.filter_filterMap]
  congr 2
  funext l
  exact requestHeader?_eq l

variable {lines lines' : List HeaderLine} {session : Option Session}

theorem values_requestHeaders (lines : List HeaderLine) (name : HeaderName) :
    (requestHeaders {} (.ofLines lines)).values name =
      ((shares lines).values name).filter fun v => isPassed (name, v) := by
  rw [requestHeaders_ofLines, Headers.values_filter]

theorem areSendable_eq {h h' : Headers} (hsame : h.SameValues h') :
    areSendable h = areSendable h' := by
  rw [Bool.eq_iff_iff, areSendable, areSendable, List.all_eq_true, List.all_eq_true]
  exact forall_congr' fun e => imp_congr_left hsame.mem_iff

/-- The identity that a session asserts can be written into headers. -/
def IsWritable : Option Session → Prop
  | none => True
  | some s => (HeaderValue.ofText? s.payload.user.id).isSome ∧
      (HeaderValue.ofText? s.payload.provider).isSome

theorem withIdentity?_eq (h : Headers) (session : Option Session) (hw : IsWritable session) :
    withIdentity? h session = some ⟨h.entries ++ identityHeaders session⟩ := by
  have hsome : ∃ out, withIdentity? h session = some out := by
    cases session with
    | none => exact ⟨h, rfl⟩
    | some s =>
        obtain ⟨user, huser⟩ := Option.isSome_iff_exists.1 hw.1
        obtain ⟨provider, hprovider⟩ := Option.isSome_iff_exists.1 hw.2
        exact ⟨_, by rw [withIdentity?, huser, hprovider]; rfl⟩
  obtain ⟨out, hout⟩ := hsome
  rw [hout, ← entries_of_withIdentity? hout]

theorem withIdentity?_eq_none (h : Headers) (session : Option Session) (hw : ¬ IsWritable session) :
    withIdentity? h session = none := by
  cases session with
  | none => exact absurd trivial hw
  | some s =>
      cases huser : HeaderValue.ofText? s.payload.user.id with
      | none => simp [withIdentity?, huser]
      | some user =>
          cases hprovider : HeaderValue.ofText? s.payload.provider with
          | none => simp [withIdentity?, huser, hprovider]
          | some provider => exact absurd ⟨by simp [huser], by simp [hprovider]⟩ hw

theorem upstreamHeaders?_eq (h : Headers) (session : Option Session) :
    upstreamHeaders? {} h session =
      if areSendable (requestHeaders {} h) = true then
        withIdentity? (requestHeaders {} h) session
      else none := by
  rw [upstreamHeaders?]
  cases areSendable (requestHeaders {} h) with
  | true => rfl
  | false => rfl

theorem sameValues_requestHeaders (hsame : (shares lines).SameValues (shares lines')) :
    (requestHeaders {} (.ofLines lines)).SameValues (requestHeaders {} (.ofLines lines')) := by
  intro name
  rw [values_requestHeaders, values_requestHeaders, hsame name]

/-- The same shares make the same headers, and either both can be sent or neither. -/
theorem rel_upstreamHeaders? (hsame : (shares lines).SameValues (shares lines'))
    (session : Option Session) :
    Option.Rel Headers.SameValues (upstreamHeaders? {} (.ofLines lines) session)
      (upstreamHeaders? {} (.ofLines lines') session) := by
  have hpassed := sameValues_requestHeaders hsame
  rw [upstreamHeaders?_eq, upstreamHeaders?_eq, areSendable_eq hpassed]
  split
  · by_cases hw : IsWritable session
    · rw [withIdentity?_eq _ session hw, withIdentity?_eq _ session hw]
      apply Option.Rel.some
      intro name
      rw [Headers.values_append, Headers.values_append]
      exact congrArg (· ++ _) (hpassed name)
    · rw [withIdentity?_eq_none _ session hw, withIdentity?_eq_none _ session hw]
      exact .none
  · exact .none

/-! What becomes of the values of one name. -/

theorem values_cons (e : HeaderName × HeaderValue) (xs : List (HeaderName × HeaderValue))
    (name : HeaderName) :
    Headers.values ⟨e :: xs⟩ name =
      if e.1 = name then e.2 :: Headers.values ⟨xs⟩ name else Headers.values ⟨xs⟩ name := by
  simp only [Headers.values, List.filter_cons, beq_iff_eq]
  split <;> rfl

/-- The shares of a name are what is left of the values that were sent. -/
theorem values_shares (lines : List HeaderLine) (name : HeaderName) :
    (shares lines).values name = ((Headers.ofLines lines).values name).filterMap (shareOf? name) := by
  induction lines with
  | nil => rfl
  | cons l lines ih =>
      rw [shares, Headers.ofLines] at ih ⊢
      rw [List.map_cons, values_cons, List.filterMap_cons]
      by_cases hname : l.name = name
      · rw [if_pos hname, List.filterMap_cons, ← ih, hname]
        cases shareOf? name l.value with
        | none => rfl
        | some v => exact (values_cons (name, v) _ name).trans (if_pos rfl)
      · rw [if_neg hname, ← ih]
        cases shareOf? l.name l.value with
        | none => rfl
        | some v => exact (values_cons (l.name, v) _ name).trans (if_neg hname)

/-- What an upstream is told of a client and by the gateway. -/
structure Asserts (lines : List HeaderLine) (session : Option Session) (out : Headers) : Prop where
  user : out.values userHeader =
    (session.map fun s => ⟨Utf8.encode s.payload.user.id⟩).toList
  provider : out.values providerHeader =
    (session.map fun s => ⟨Utf8.encode s.payload.provider⟩).toList
  nothingElse : ∀ e ∈ out.entries, isIdentityHeader e.1 = true →
    session.isSome ∧ (e.1 = userHeader ∨ e.1 = providerHeader)
  behind : ∀ name, StaysBehind name.text → isIdentityHeader name = false → out.values name = []
  cookies : out.values .cookie = ((Headers.ofLines lines).values .cookie).filterMap leftOf?
  kept : ∀ name, ¬ StaysBehind name.text → name ≠ .cookie →
    out.values name = ((Headers.ofLines lines).values name).filter fun v => v.text?.isSome

theorem eq_of_upstreamHeaders? {h out : Headers} (hout : upstreamHeaders? {} h session = some out) :
    out = ⟨(requestHeaders {} h).entries ++ identityHeaders session⟩ := by
  rw [upstreamHeaders?_eq, Option.ite_none_right_eq_some] at hout
  rw [← entries_of_withIdentity? hout.2]

theorem values_identityHeaders_of_other {name : HeaderName} (hname : isIdentityHeader name = false)
    (session : Option Session) : Headers.values ⟨identityHeaders session⟩ name = [] := by
  rw [Headers.values, List.map_eq_nil_iff, List.filter_eq_nil_iff]
  intro e he hsame
  rw [beq_iff_eq] at hsame
  rw [← hsame] at hname
  rcases (names_of_identityHeaders he).2 with h | h
  · rw [h, isIdentityHeader_userHeader] at hname
    cases hname
  · rw [h, isIdentityHeader_providerHeader] at hname
    cases hname

theorem values_requestHeaders_of_identity {name : HeaderName} (hname : isIdentityHeader name = true)
    (h : Headers) : (requestHeaders {} h).values name = [] := by
  rw [Headers.values, List.map_eq_nil_iff, List.filter_eq_nil_iff]
  intro e he hsame
  have hnot := not_identity_of_mem_requestHeaders he
  rw [beq_iff_eq.1 hsame, hname] at hnot
  cases hnot

theorem values_requestHeaders_eq (lines : List HeaderLine) (name : HeaderName) :
    (requestHeaders {} (.ofLines lines)).values name =
      (((Headers.ofLines lines).values name).filterMap (shareOf? name)).filter
        fun v => isPassed (name, v) := by
  rw [values_requestHeaders, values_shares]

/-- Headers that can be sent tell the upstream of the session and of nobody else. -/
theorem asserts_of_upstreamHeaders? {out : Headers}
    (hout : upstreamHeaders? {} (.ofLines lines) session = some out) :
    Asserts lines session out := by
  obtain rfl := eq_of_upstreamHeaders? hout
  -- no name stands in both parts, so that every name is looked up in one of them
  have hother : ∀ name, isIdentityHeader name = false →
      Headers.values ⟨(requestHeaders {} (.ofLines lines)).entries ++ identityHeaders session⟩ name =
        (requestHeaders {} (.ofLines lines)).values name := by
    intro name hname
    rw [Headers.values_append, values_identityHeaders_of_other hname, List.append_nil]
  have hown : ∀ name, isIdentityHeader name = true →
      Headers.values ⟨(requestHeaders {} (.ofLines lines)).entries ++ identityHeaders session⟩ name =
        Headers.values ⟨identityHeaders session⟩ name := by
    intro name hname
    rw [Headers.values_append]
    exact congrArg (· ++ _) (values_requestHeaders_of_identity hname _)
  constructor
  case user =>
    rw [hown _ isIdentityHeader_userHeader]
    cases session <;> rfl
  case provider =>
    rw [hown _ isIdentityHeader_providerHeader]
    cases session <;> rfl
  case nothingElse =>
    intro e he hidentity
    cases List.mem_append.1 he with
    | inl hpassed =>
        rw [not_identity_of_mem_requestHeaders hpassed] at hidentity
        cases hidentity
    | inr hasserted => exact names_of_identityHeaders hasserted
  case behind =>
    intro name hbehind hname
    have hnone : shareOf? name = fun _ => none := by
      funext v
      exact if_pos hbehind
    rw [hother name hname, values_requestHeaders_eq, hnone]
    simp
  case cookies =>
    have hshare : shareOf? .cookie = leftOf? := by
      funext v
      rw [shareOf?, if_neg (by decide), if_pos rfl]
    rw [hother _ (by decide), values_requestHeaders_eq, hshare, List.filter_eq_self]
    intro v _
    simp [isPassed]
  case kept =>
    intro name hbehind hcookie
    have hshare : shareOf? name = some := by
      funext v
      rw [shareOf?, if_neg hbehind, if_neg hcookie]
    have hname : isIdentityHeader name = false := by
      rw [← Bool.not_eq_true, isIdentityHeader, List.isPrefixOf_iff_prefix]
      exact fun h => hbehind (.inr (.inl h))
    rw [hother name hname, values_requestHeaders_eq, hshare, List.filterMap_some]
    apply List.filter_congr
    intro v _
    simp [isPassed, hcookie]

theorem exists_upstreamHeaders?_iff (h : Headers) (session : Option Session) :
    (∃ out, upstreamHeaders? {} h session = some out) ↔
      IsWritable session ∧ ∀ e ∈ (requestHeaders {} h).entries, '"' ∉ e.1.text.toList := by
  have hsendable : areSendable (requestHeaders {} h) = true ↔
      ∀ e ∈ (requestHeaders {} h).entries, '"' ∉ e.1.text.toList := by
    simp [areSendable, HeaderName.isSendable]
  rw [upstreamHeaders?_eq, ← hsendable]
  by_cases hw : IsWritable session
  · rw [withIdentity?_eq _ session hw]
    simp [hw]
  · rw [withIdentity?_eq_none _ session hw]
    simp [hw]

/-- Clients whose headers come to the same get the same sent to the upstream,
whatever they write besides. What an upstream is told of a caller is the user and
provider of the session, and nothing without one; it is told so unless these, or
the name of a header that is passed on, cannot be written. -/
theorem clients_cannot_pose (hsame : (shares lines).SameValues (shares lines'))
    (session : Option Session) :
    Option.Rel Headers.SameValues (upstreamHeaders? {} (.ofLines lines) session)
        (upstreamHeaders? {} (.ofLines lines') session) ∧
      (∀ out, upstreamHeaders? {} (.ofLines lines) session = some out →
        Asserts lines session out) ∧
      ((∃ out, upstreamHeaders? {} (.ofLines lines) session = some out) ↔ IsWritable session ∧
        ∀ e ∈ (requestHeaders {} (.ofLines lines)).entries, '"' ∉ e.1.text.toList) :=
  ⟨rel_upstreamHeaders? hsame session, fun _ hout => asserts_of_upstreamHeaders? hout,
    exists_upstreamHeaders?_iff _ session⟩

def poser : List HeaderLine :=
  [⟨"X-AUTH-Request-User", ⟨Utf8.encode "admin"⟩, by decide⟩,
    ⟨"Cookie", ⟨Utf8.encode "session=x; a=1"⟩, by decide⟩,
    ⟨"Accept", ⟨Utf8.encode "text/html"⟩, by decide⟩]

def plainClient : List HeaderLine :=
  [⟨"HOST", ⟨Utf8.encode "gateway"⟩, by decide⟩,
    ⟨"cookie", ⟨Utf8.encode "a=1"⟩, by decide⟩,
    ⟨"Te", ⟨Utf8.encode "trailers"⟩, by decide⟩,
    ⟨"accept", ⟨Utf8.encode "text/html"⟩, by decide⟩]

/-- Of both of them the upstream hears that they are Alice, if that is who they are. -/
theorem poser_is_not_heard :
    (shares poser).SameValues (shares plainClient) ∧
      Option.Rel Headers.SameValues (upstreamHeaders? {} (.ofLines poser) (some alice))
        (upstreamHeaders? {} (.ofLines plainClient) (some alice)) ∧
      ∃ out, upstreamHeaders? {} (.ofLines poser) (some alice) = some out ∧
        out.values userHeader = [⟨Utf8.encode "alice"⟩] := by
  have hequal : shares poser = shares plainClient := by decide +kernel
  have hsame : (shares poser).SameValues (shares plainClient) := fun name => by rw [hequal]
  obtain ⟨hrel, hasserts, hsent⟩ := clients_cannot_pose hsame (some alice)
  obtain ⟨out, hout⟩ := hsent.2 ⟨⟨by decide +kernel, by decide +kernel⟩, by decide +kernel⟩
  exact ⟨hsame, hrel, out, hout, (hasserts out hout).user⟩

end Forwarding

end AuthGateway
