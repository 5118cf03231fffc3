import AuthGateway.Proofs.Token

/-!
Which headers are accepted. The reader of records keeps a field unless it has
kept one of this name before, so that it gets through an object exactly if every
name is a text and no field that is asked for stands twice. A header is accepted
if it is the base64url text of a JSON value with the two algorithms, in a list or
in an object.
-/
namespace AuthGateway

namespace Json

def valuesOf (name : String) : List (Option String × Node) → List Node
  | [] => []
  | (k, v) :: fields => if k = some name then v :: valuesOf name fields else valuesOf name fields

variable {names : List String} {kept kept' : List (String × Node)}
  {fields : List (Option String × Node)}

theorem lookup_toList_cons (k name : String) (v : Node) (hnew : kept.lookup k = none) :
    (List.lookup name ((k, v) :: kept)).toList ++ valuesOf name fields =
      (kept.lookup name).toList ++ valuesOf name ((some k, v) :: fields) := by
  rw [List.lookup_cons]
  by_cases hname : name = k
  · simp [hname, hnew, valuesOf]
  · rw [beq_false_of_ne hname]
    simp [valuesOf, Ne.symm hname]

/-- Of the fields asked for, an object that was read has exactly those kept. -/
theorem values_of_keepFields? (h : keepFields? names kept fields = some kept') :
    (∀ f ∈ fields, f.1.isSome) ∧ ∀ name ∈ names,
      (kept'.lookup name).toList = (kept.lookup name).toList ++ valuesOf name fields := by
  induction fields generalizing kept with
  | nil =>
      cases h
      exact ⟨nofun, fun name _ => (List.append_nil _).symm⟩
  | cons f fields ih =>
      obtain ⟨k, v⟩ := f
      cases k with
      | none => cases h
      | some k =>
          rw [keepFields?] at h
          by_cases hk : names.contains k = true
          · rw [if_pos hk] at h
            -- a field that stands twice is refused
            by_cases hkept : (kept.lookup k).isSome = true
            · rw [if_pos hkept] at h
              cases h
            · rw [if_neg hkept] at h
              obtain ⟨htexts, hvalues⟩ := ih h
              refine ⟨List.forall_mem_cons.2 ⟨rfl, htexts⟩, fun name hname => ?_⟩
              rw [hvalues name hname]
              exact lookup_toList_cons k name v (Option.not_isSome_iff_eq_none.1 hkept)
          · rw [if_neg hk] at h
            obtain ⟨htexts, hvalues⟩ := ih h
            refine ⟨List.forall_mem_cons.2 ⟨rfl, htexts⟩, fun name hname => ?_⟩
            have hne : k ≠ name := fun e => hk (List.contains_iff_mem.2 (e ▸ hname))
            rw [hvalues name hname]
            simp [valuesOf, hne]

/-- An object with texts as names is read if no field asked for stands twice. -/
theorem exists_keepFields? (htexts : ∀ f ∈ fields, f.1.isSome)
    (honce : ∀ name ∈ names, ((kept.lookup name).toList ++ valuesOf name fields).length ≤ 1) :
    ∃ kept', keepFields? names kept fields = some kept' := by
  induction fields generalizing kept with
  | nil => exact ⟨kept, rfl⟩
  | cons f fields ih =>
      obtain ⟨k, v⟩ := f
      obtain ⟨hk, hrest⟩ := List.forall_mem_cons.1 htexts
      cases k with
      | none => cases hk
      | some k =>
          rw [keepFields?]
          by_cases hmem : names.contains k = true
          · have hnew : kept.lookup k = none := by
              -- a field that was kept before would stand twice
              have hlength := honce k (List.contains_iff_mem.1 hmem)
              cases hlookup : kept.lookup k with
              | none => rfl
              | some w => simp [hlookup, valuesOf] at hlength
            rw [if_pos hmem, hnew, Option.isSome_none, if_neg Bool.false_ne_true]
            refine ih hrest fun name hname => ?_
            rw [lookup_toList_cons k name v hnew]
            exact honce name hname
          · rw [if_neg hmem]
            refine ih hrest fun name hname => ?_
            have hne : k ≠ name := fun e => hmem (List.contains_iff_mem.2 (e ▸ hname))
            simpa [valuesOf, hne] using honce name hname

theorem Node.text?_eq_some_iff {n : Node} {s : String} :
    n.text? = some s ↔ n = .string (some s) := by
  constructor
  · intro h
    cases n with
    | string t => exact congrArg Node.string h
    | _ => cases h
  · intro h
    rw [h]
    rfl

end Json

namespace Token

open Json (Node)

/-- A JSON value with the two algorithms: a list of them, or an object with texts
as names in which each of the two fields stands once, whatever else there is. -/
inductive NamesAlgorithms : Node → Prop
  | listed :
      NamesAlgorithms (.array [.string (some algorithm), .string (some contentEncryption)])
  | named {fields : List (Option String × Node)} (htexts : ∀ f ∈ fields, f.1.isSome)
      (halg : Json.valuesOf "alg" fields = [.string (some algorithm)])
      (henc : Json.valuesOf "enc" fields = [.string (some contentEncryption)]) :
      NamesAlgorithms (.object fields)

theorem required?_iff {r : Json.Record} {name s : String} :
    r.required? name (·.text?) = some s ↔ r.values.lookup name = some (.string (some s)) := by
  rw [Json.Record.required?, Option.bind_eq_some_iff]
  constructor
  · rintro ⟨n, hn, htext⟩
    rw [hn, Node.text?_eq_some_iff.1 htext]
  · intro h
    exact ⟨_, h, rfl⟩

/-- Of the two shapes exactly is a record read in which both fields name the algorithms. -/
theorem namesAlgorithms_iff (n : Node) :
    NamesAlgorithms n ↔ ∃ r, n.record? ["alg", "enc"] = some r ∧
      r.values.lookup "alg" = some (.string (some algorithm)) ∧
      r.values.lookup "enc" = some (.string (some contentEncryption)) := by
  constructor
  · intro h
    cases h with
    | listed => exact ⟨_, rfl, by simp, by simp [List.lookup_cons]⟩
    | @named fields htexts halg henc =>
        have honce : ∀ name ∈ ["alg", "enc"], (Json.valuesOf name fields).length ≤ 1 := by
          simp [halg, henc]
        obtain ⟨kept, hkept⟩ : ∃ kept, Json.keepFields? ["alg", "enc"] [] fields = some kept :=
          Json.exists_keepFields? htexts honce
        have hvalues := (Json.values_of_keepFields? hkept).2
        refine ⟨⟨false, kept⟩, by rw [Node.record?, hkept]; rfl, ?_, ?_⟩
        · exact Option.toList_eq_singleton_iff.1 ((hvalues "alg" (by simp)).trans halg)
        · exact Option.toList_eq_singleton_iff.1 ((hvalues "enc" (by simp)).trans henc)
  · rintro ⟨r, hread, halg, henc⟩
    cases n with
    | array items =>
        simp only [Node.record?, Option.ite_none_right_eq_some, Option.some.injEq] at hread
        obtain ⟨hlength, rfl⟩ := hread
        -- a list has the values in order, and no more than there are fields
        match items with
        | [] => cases halg
        | [x] => simp [List.lookup_cons] at henc
        | [x, y] =>
            have hx : x = .string (some algorithm) := by simpa [List.lookup_cons] using halg
            have hy : y = .string (some contentEncryption) := by simpa [List.lookup_cons] using henc
            rw [hx, hy]
            exact .listed
        | _ :: _ :: _ :: _ => simp at hlength
    | object fields =>
        simp only [Node.record?, Option.map_eq_some_iff] at hread
        obtain ⟨kept, hkept, rfl⟩ := hread
        obtain ⟨htexts, hvalues⟩ := Json.values_of_keepFields? hkept
        refine .named htexts ?_ ?_
        · exact (hvalues "alg" (by simp)).symm.trans (Option.toList_eq_singleton_iff.2 halg)
        · exact (hvalues "enc" (by simp)).symm.trans (Option.toList_eq_singleton_iff.2 henc)
    | _ => cases hread

/-- A header segment is accepted if it is the text of a value with the two algorithms. -/
theorem acceptsHeader_iff (header : List Char) :
    acceptsHeader header = true ↔
      ∃ bytes n, header = segment bytes ∧ Json.parse? bytes = some n ∧ NamesAlgorithms n := by
  have hread : acceptsHeader header = true ↔
      ∃ n, (segmentBytes? header).bind Json.parse? = some n ∧ NamesAlgorithms n := by
    rw [acceptsHeader]
    cases (segmentBytes? header).bind Json.parse? with
    | none => simp
    | some n =>
        simp only [Option.some.injEq, exists_eq_left', namesAlgorithms_iff]
        cases n.record? ["alg", "enc"] with
        | none => simp
        | some r => simp [required?_iff]
  rw [hread]
  constructor
  · rintro ⟨n, hn, hnames⟩
    obtain ⟨bytes, hbytes, hparse⟩ := Option.bind_eq_some_iff.1 hn
    exact ⟨bytes, n, segmentBytes?_eq_some_iff.1 hbytes, hparse, hnames⟩
  · rintro ⟨bytes, n, hbytes, hparse, hnames⟩
    exact ⟨n, Option.bind_eq_some_iff.2 ⟨bytes, segmentBytes?_eq_some_iff.2 hbytes, hparse⟩, hnames⟩

end Token

end AuthGateway
