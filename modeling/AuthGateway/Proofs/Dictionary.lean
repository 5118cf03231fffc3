import AuthGateway.Text.Dictionary

/-!
Laws of dictionaries: what is found after an entry was put in, after some were taken out or
all were changed, and that the entries of a dictionary, put in one after the other, give it
again.
-/
namespace AuthGateway.Dictionary

variable {β γ : Type}

theorem lookup_cons_eq (e : String × β) (l : List (String × β)) (name : String) :
    (e :: l).lookup name = if name = e.1 then some e.2 else l.lookup name := by
  rw [List.lookup_cons]
  by_cases h : name = e.1
  · rw [if_pos h, beq_iff_eq.2 h]
  · rw [if_neg h, beq_false_of_ne h]

/-- An inserted entry is found by its name, and all others as before. -/
theorem lookup_insertEntry (k : String) (v : β) (l : List (String × β)) (name : String) :
    (insertEntry k v l).lookup name = if name = k then some v else l.lookup name := by
  induction l with
  | nil => exact lookup_cons_eq (k, v) [] name
  | cons e rest ih =>
      unfold insertEntry
      split
      · exact lookup_cons_eq (k, v) (e :: rest) name
      · next hk =>
          split
          · next hk' =>
              rw [lookup_cons_eq, lookup_cons_eq, ih]
              by_cases h : name = e.1
              · have hne : name ≠ k := fun heq => String.lt_irrefl k (by rwa [← h, heq] at hk')
                rw [if_pos h, if_pos h, if_neg hne]
              · rw [if_neg h, if_neg h]
          · next hk' =>
              -- of two names of which neither is less each is the other
              have heq : k = e.1 :=
                String.le_antisymm (Decidable.not_not.1 fun c => hk' (String.not_le.1 c))
                  (Decidable.not_not.1 fun c => hk (String.not_le.1 c))
              rw [lookup_cons_eq, lookup_cons_eq, ← heq]
              by_cases h : name = k
              · rw [if_pos h, if_pos h]
              · rw [if_neg h, if_neg h, if_neg h]

theorem find?_insert (k : String) (v : β) (d : Dictionary β) (name : String) :
    (d.insert k v).find? name = if name = k then some v else d.find? name :=
  lookup_insertEntry k v d.entries name

theorem lookup_filter {l : List (String × β)} (h : l.Pairwise fun a b => a.1 < b.1)
    (p : String × β → Bool) (name : String) :
    (l.filter p).lookup name = (l.lookup name).filter fun v => p (name, v) := by
  induction l with
  | nil => rfl
  | cons e rest ih =>
      obtain ⟨hhead, hrest⟩ := List.pairwise_cons.1 h
      have ih := ih hrest
      rw [lookup_cons_eq]
      by_cases hname : name = e.1
      · -- the names ascend, so that there is no other entry of this name
        have hnone : (rest.filter p).lookup name = none := by
          refine List.lookup_eq_none_iff.2 fun x hx => bne_iff_ne.2 fun heq => ?_
          have hlt := hhead x (List.mem_filter.1 hx).1
          rw [← hname, heq] at hlt
          exact String.lt_irrefl _ hlt
        have he : e = (name, e.2) := by rw [hname]
        rw [if_pos hname, List.filter_cons]
        by_cases hp : p e = true
        · rw [if_pos hp, lookup_cons_eq, if_pos hname, Option.filter_some, ← he, if_pos hp]
        · rw [if_neg hp, hnone, Option.filter_some, ← he, if_neg hp]
      · rw [if_neg hname, List.filter_cons]
        split
        · rw [lookup_cons_eq, if_neg hname, ih]
        · exact ih

theorem find?_filter (d : Dictionary β) (p : String × β → Bool) (name : String) :
    (d.filter p).find? name = (d.find? name).filter fun v => p (name, v) :=
  lookup_filter d.ascending p name

theorem mem_names_of_find? {d : Dictionary β} {name : String} (h : (d.find? name).isSome) :
    name ∈ d.entries.map Prod.fst := by
  obtain ⟨e, he, hname⟩ := List.lookup_isSome_iff.1 h
  exact List.mem_map.2 ⟨e, he, (beq_iff_eq.1 hname).symm⟩

theorem lookup_map (f : β → γ) (l : List (String × β)) (name : String) :
    (l.map fun e => (e.1, f e.2)).lookup name = (l.lookup name).map f := by
  induction l with
  | nil => rfl
  | cons e rest ih =>
      rw [List.map_cons, lookup_cons_eq, lookup_cons_eq, ih]
      split <;> rfl

theorem find?_map (f : β → γ) (d : Dictionary β) (name : String) :
    (d.map f).find? name = (d.find? name).map f :=
  lookup_map f d.entries name

theorem insertEntry_map (f : β → γ) (k : String) (v : β) (l : List (String × β)) :
    insertEntry k (f v) (l.map fun e => (e.1, f e.2)) =
      (insertEntry k v l).map fun e => (e.1, f e.2) := by
  induction l with
  | nil => rfl
  | cons e rest ih =>
      simp only [List.map_cons, insertEntry]
      split
      · rfl
      · split
        · rw [ih, List.map_cons]
        · rfl

theorem insert_map (f : β → γ) (k : String) (v : β) (d : Dictionary β) :
    (d.map f).insert k (f v) = (d.insert k v).map f :=
  ext (insertEntry_map f k v d.entries)

theorem filter_map (f : β → γ) (p : String × γ → Bool) (q : String × β → Bool)
    (h : ∀ e, p (e.1, f e.2) = q e) (d : Dictionary β) :
    (d.map f).filter p = (d.filter q).map f := by
  have hpq : (p ∘ fun e : String × β => (e.1, f e.2)) = q := funext h
  refine ext ?_
  simp only [filter, map, List.filter_map, hpq]

theorem size_map (f : β → γ) (d : Dictionary β) : (d.map f).size = d.size :=
  List.length_map _

theorem size_filter_add (p : String × β → Bool) (d : Dictionary β) :
    (d.filter p).size + (d.filter fun e => !p e).size = d.size := by
  simpa [size, filter, List.countP_eq_length_filter] using
    (List.length_eq_countP_add_countP p (l := d.entries)).symm

/-- An entry behind all others is put at the end. -/
theorem insertEntry_of_last {k : String} {v : β} {l : List (String × β)} (h : ∀ e ∈ l, e.1 < k) :
    insertEntry k v l = l ++ [(k, v)] := by
  induction l with
  | nil => rfl
  | cons e l ih =>
      obtain ⟨he, hl⟩ := List.forall_mem_cons.1 h
      rw [insertEntry, if_neg (String.lt_asymm he), if_pos he, ih hl, List.cons_append]

theorem foldl_insert {d : Dictionary β} {l : List (String × β)}
    (h : (d.entries ++ l).Pairwise fun a b => a.1 < b.1) :
    (l.foldl (fun d e => d.insert e.1 e.2) d).entries = d.entries ++ l := by
  induction l generalizing d with
  | nil => exact (List.append_nil _).symm
  | cons e l ih =>
      have hlast : ∀ x ∈ d.entries, x.1 < e.1 := fun x hx =>
        (List.pairwise_append.1 h).2.2 x hx e List.mem_cons_self
      have hinsert : (d.insert e.1 e.2).entries = d.entries ++ [e] := insertEntry_of_last hlast
      rw [List.foldl_cons, ih]
      · rw [hinsert, List.append_assoc, List.singleton_append]
      · rw [hinsert, List.append_assoc, List.singleton_append]
        exact h

theorem ofList_entries (d : Dictionary β) : ofList d.entries = d :=
  ext (foldl_insert (d := empty) d.ascending)

end AuthGateway.Dictionary
