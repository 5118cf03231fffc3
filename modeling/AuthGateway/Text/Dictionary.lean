/-!
Values by name, kept in the order of the names. A dictionary has one list of
entries for each assignment of values to names, so that equality is plain
equality and writing it out is reading its entries.
-/
namespace AuthGateway

/-- Entries with strictly ascending names. -/
structure Dictionary (β : Type) where
  entries : List (String × β)
  ascending : entries.Pairwise fun a b => a.1 < b.1

namespace Dictionary

variable {β : Type}

theorem ext {a b : Dictionary β} (h : a.entries = b.entries) : a = b := by
  cases a
  cases b
  cases h
  rfl

instance [DecidableEq β] : DecidableEq (Dictionary β) := fun a b =>
  if h : a.entries = b.entries then isTrue (ext h)
  else isFalse fun e => h (e ▸ rfl)

def empty : Dictionary β := ⟨[], List.Pairwise.nil⟩

instance : Inhabited (Dictionary β) := ⟨empty⟩

def insertEntry (k : String) (v : β) : List (String × β) → List (String × β)
  | [] => [(k, v)]
  | e :: rest =>
    if k < e.1 then (k, v) :: e :: rest
    else if e.1 < k then e :: insertEntry k v rest
    else (k, v) :: rest

theorem mem_insertEntry {k : String} {v : β} {l : List (String × β)} {x : String × β}
    (h : x ∈ insertEntry k v l) : x = (k, v) ∨ x ∈ l := by
  induction l with
  | nil => simp_all [insertEntry]
  | cons e rest ih =>
      unfold insertEntry at h
      split at h
      · simpa using h
      · split at h
        · cases List.mem_cons.1 h with
          | inl he => exact .inr (he ▸ List.mem_cons_self)
          | inr hr => exact (ih hr).imp id (List.mem_cons_of_mem _)
        · cases List.mem_cons.1 h with
          | inl he => exact .inl he
          | inr hr => exact .inr (List.mem_cons_of_mem _ hr)

theorem ascending_insertEntry {k : String} {v : β} {l : List (String × β)}
    (h : l.Pairwise fun a b => a.1 < b.1) :
    (insertEntry k v l).Pairwise fun a b => a.1 < b.1 := by
  induction l with
  | nil => simp [insertEntry]
  | cons e rest ih =>
      have hrest := (List.pairwise_cons.1 h).2
      have hhead := (List.pairwise_cons.1 h).1
      unfold insertEntry
      split
      · next hk =>
        refine List.pairwise_cons.2 ⟨fun x hx => ?_, h⟩
        cases List.mem_cons.1 hx with
        | inl he => exact he ▸ hk
        | inr hr => exact String.lt_trans hk (hhead x hr)
      · next hk =>
        split
        · next hk' =>
          refine List.pairwise_cons.2 ⟨fun x hx => ?_, ih hrest⟩
          cases mem_insertEntry hx with
          | inl he => exact he ▸ hk'
          | inr hr => exact hhead x hr
        · next hk' =>
          have heq : k = e.1 :=
            String.le_antisymm (Decidable.not_not.1 fun c => hk' (String.not_le.1 c))
              (Decidable.not_not.1 fun c => hk (String.not_le.1 c))
          exact List.pairwise_cons.2 ⟨fun x hx => heq ▸ hhead x hx, hrest⟩

def insert (k : String) (v : β) (d : Dictionary β) : Dictionary β :=
  ⟨insertEntry k v d.entries, ascending_insertEntry d.ascending⟩

def find? (k : String) (d : Dictionary β) : Option β :=
  d.entries.lookup k

def filter (p : String × β → Bool) (d : Dictionary β) : Dictionary β :=
  ⟨d.entries.filter p, d.ascending.filter p⟩

def size (d : Dictionary β) : Nat :=
  d.entries.length

/-- The last value of each name. -/
def ofList (l : List (String × β)) : Dictionary β :=
  l.foldl (fun d e => d.insert e.1 e.2) empty

def map {γ : Type} (f : β → γ) (d : Dictionary β) : Dictionary γ :=
  ⟨d.entries.map fun e => (e.1, f e.2), List.Pairwise.map _ (fun _ _ h => h) d.ascending⟩

end Dictionary

end AuthGateway
