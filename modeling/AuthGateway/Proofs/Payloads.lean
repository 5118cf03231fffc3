import AuthGateway.Proofs.Dictionary
import AuthGateway.Proofs.Json
import AuthGateway.Proofs.Token
import AuthGateway.Session.Payload

/-!
Payloads come back out of their tokens. A record is written with each of its
fields once, so that its reader finds every field again, and a dictionary is
written in the order of its names, so that filling a new one appends entry by
entry. What remains is the token around the text.
-/
namespace AuthGateway

namespace Json

/-- Fields that are all asked for, each of them once, are all kept. -/
theorem keepFields?_fieldNodes {names : List String} {fields : List (String × Value)}
    {kept : List (String × Node)} (hnames : ∀ f ∈ fields, f.1 ∈ names)
    (honce : (fields.map Prod.fst).Nodup) (hnew : ∀ f ∈ fields, kept.lookup f.1 = none) :
    keepFields? names kept (fieldNodes fields) =
      some ((fields.map fun f => (f.1, f.2.node)).reverse ++ kept) := by
  induction fields generalizing kept with
  | nil => rfl
  | cons f fields ih =>
      obtain ⟨k, v⟩ := f
      obtain ⟨hname, hnames⟩ := List.forall_mem_cons.1 hnames
      obtain ⟨hfirst, hnew⟩ := List.forall_mem_cons.1 hnew
      obtain ⟨hk, honce⟩ := List.nodup_cons.1 honce
      have hnew' : ∀ f ∈ fields, ((k, v.node) :: kept).lookup f.1 = none := by
        intro f hf
        have hne : f.1 ≠ k := fun e => hk (List.mem_map.2 ⟨f, hf, e⟩)
        rw [List.lookup_cons, beq_false_of_ne hne]
        exact hnew f hf
      rw [fieldNodes, keepFields?, if_pos (List.contains_iff_mem.2 hname), hfirst,
        Option.isSome_none, if_neg Bool.false_ne_true, ih hnames honce hnew']
      simp

/-- An object is read as the record of its fields. -/
theorem record?_object {names : List String} {fields : List (String × Value)}
    (hnames : ∀ f ∈ fields, f.1 ∈ names) (honce : (fields.map Prod.fst).Nodup) :
    (Value.object fields).node.record? names =
      some ⟨false, (fields.map fun f => (f.1, f.2.node)).reverse⟩ := by
  rw [Value.node, Node.record?, keepFields?_fieldNodes hnames honce fun _ _ => rfl,
    List.append_nil]
  rfl

theorem fieldsExact_texts (l : List (String × String)) :
    FieldsExact (l.map fun e => (e.1, .string e.2)) := by
  induction l with
  | nil => trivial
  | cons e l ih => exact ⟨trivial, ih⟩

theorem textFields?_texts (l : List (String × String)) :
    Node.textFields? (fieldNodes (l.map fun e => (e.1, .string e.2))) = some l := by
  induction l with
  | nil => rfl
  | cons e l ih =>
      rw [List.map_cons, fieldNodes, Node.textFields?, ih]
      rfl

@[simp] theorem text?_node (s : String) : (Value.string s).node.text? = some s := rfl

@[simp] theorem int64?_node (n : Int64) : (Value.integer n.toInt).node.int64? = some n := by
  rw [Value.node, Node.int64?, Int64.ofInt_toInt, if_pos rfl]

@[simp] theorem dictionary?_node (d : Dictionary String) :
    (Value.object (d.entries.map fun e => (e.1, .string e.2))).node.dictionary? = some d := by
  rw [Value.node, Node.dictionary?, textFields?_texts, Option.map_some, Dictionary.ofList_entries]

/-- A reader finds in the text of a value what it finds in the value. -/
theorem read_render {α : Type} {read : Node → Option α} {v : Value} (hv : v.IsExact) :
    (parse? (Utf8.encode v.render)).bind read = read v.node := by
  rw [parse?_render hv, Option.bind_some]

end Json

open Json

namespace User

theorem isExact_toJson (u : User) : u.toJson.IsExact :=
  ⟨trivial, fieldsExact_texts _, trivial⟩

@[simp] theorem ofJson?_toJson (u : User) : ofJson? u.toJson.node = some u := by
  rw [toJson, ofJson?, record?_object (by simp) (by simp)]
  simp [Record.required?, Record.default?, List.lookup_cons]

end User

namespace Payload

theorem isExact_toJson (p : Payload) : p.toJson.IsExact :=
  ⟨trivial, trivial, trivial, p.user.isExact_toJson, trivial, trivial⟩

theorem ofJson?_toJson (p : Payload) : ofJson? p.toJson.node = some p := by
  rw [toJson, ofJson?, record?_object (by simp) (by simp)]
  simp [Record.required?, List.lookup_cons]

theorem read_render (p : Payload) :
    (parse? (Utf8.encode p.toJson.render)).bind ofJson? = some p :=
  (Json.read_render p.isExact_toJson).trans p.ofJson?_toJson

end Payload

namespace LoginState

theorem isExact_toJson (s : LoginState) : s.toJson.IsExact := by
  cases s with
  | mk provider returnUrl nonce =>
      cases returnUrl with
      | none => exact ⟨trivial, trivial, trivial, trivial⟩
      | some url => exact ⟨trivial, trivial, trivial, trivial⟩

theorem ofJson?_toJson (s : LoginState) : ofJson? s.toJson.node = some s := by
  rw [toJson, ofJson?, record?_object (by simp) (by simp)]
  cases s with
  | mk provider returnUrl nonce =>
      cases returnUrl with
      | none =>
          simp [Record.required?, Record.optional?, List.lookup_cons, Value.node, Node.text?]
      | some url =>
          simp [Record.required?, Record.optional?, List.lookup_cons, Value.node, Node.text?]

theorem read_render (s : LoginState) :
    (parse? (Utf8.encode s.toJson.render)).bind ofJson? = some s :=
  (Json.read_render s.isExact_toJson).trans s.ofJson?_toJson

end LoginState

namespace Token

/-- A token of five base64url segments, of which the second is empty. -/
def IsCompact (token : String) : Prop :=
  ∃ header nonce text tag, Split.pieces '.' token.toList =
    [segment header, [], segment nonce, segment text, segment tag]

theorem isCompact_sealJson (key : Octets 32) (nonce : Octets 12) (v : Value) :
    IsCompact (sealJson key nonce v) := by
  refine ⟨Utf8.encode headerJson.render, nonce.toList,
    (Box.ofPlaintext key nonce (Utf8.encode v.render)).ciphertext,
    (Box.ofPlaintext key nonce (Utf8.encode v.render)).tag.toList, ?_⟩
  rw [sealJson, String.toList_ofList]
  exact Box.pieces_chars (dot_not_mem_segment _)

/-- Whatever is sealed into a cookie has a token of five segments, from which it
is read back under the same key. -/
theorem seal_round_trip (key : Octets 32) (nonce : Octets 12) :
    (∀ p : Payload, IsCompact (sealJson key nonce p.toJson) ∧
      openJson key (sealJson key nonce p.toJson) Payload.ofJson? = .ok p) ∧
    (∀ s : LoginState, IsCompact (sealJson key nonce s.toJson) ∧
      openJson key (sealJson key nonce s.toJson) LoginState.ofJson? = .ok s) :=
  ⟨fun p => ⟨isCompact_sealJson key nonce _,
      openJson_sealJson p.read_render key nonce⟩,
    fun s => ⟨isCompact_sealJson key nonce _, openJson_sealJson s.read_render key nonce⟩⟩

end Token

end AuthGateway
