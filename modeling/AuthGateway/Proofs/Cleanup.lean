import AuthGateway.Proofs.ExpiringMap
import Mathlib.Data.List.Sort

/-!
When the ledger is purged cannot be told from what it answers. A purge drops entries that
have expired, and a clock that does not go back never asks for them again: two tables that
agree on what has not expired go on agreeing, because a revocation lasts at least up to
the second it is asked for, so that an expired entry adds nothing to it. Nor does the
order of revocations show, because the later one of two times is the same either way.
-/
namespace AuthGateway

namespace Dictionary

variable {β : Type} {d d' : Dictionary β}

/-- Where names ascend, an entry is in a list exactly if it is the one found by its name. -/
theorem mem_iff_lookup {l : List (String × β)} (h : l.Pairwise fun a b => a.1 < b.1)
    (e : String × β) : e ∈ l ↔ l.lookup e.1 = some e.2 := by
  induction l with
  | nil => simp
  | cons x rest ih =>
      obtain ⟨hhead, hrest⟩ := List.pairwise_cons.1 h
      rw [List.mem_cons, lookup_cons_eq, ih hrest]
      by_cases hname : e.1 = x.1
      · have hnot : rest.lookup e.1 ≠ some e.2 := fun hfind => by
          have hlt := hhead e ((ih hrest).2 hfind)
          rw [hname] at hlt
          exact String.lt_irrefl _ hlt
        rw [if_pos hname, Option.some_inj, or_iff_left hnot, Prod.ext_iff, and_iff_right hname]
        exact eq_comm
      · rw [if_neg hname]
        exact or_iff_right fun heq => hname (congrArg Prod.fst heq)

/-- Dictionaries in which all names mean the same are the same. -/
theorem ext_find? (h : ∀ name, d.find? name = d'.find? name) : d = d' := by
  have : Std.Irrefl fun a b : String × β => a.1 < b.1 := ⟨fun a => String.lt_irrefl a.1⟩
  have : Std.Antisymm fun a b : String × β => a.1 < b.1 :=
    ⟨fun a b hab hba => absurd hba (String.lt_asymm hab)⟩
  refine ext (d.ascending.eq_of_mem_iff d'.ascending fun e => ?_)
  rw [mem_iff_lookup d.ascending, mem_iff_lookup d'.ascending]
  exact Eq.congr (h e.1) rfl

end Dictionary

namespace Revocation

namespace Operation

def isCleanup : Operation → Bool
  | .cleanup => true
  | _ => false

def isLookup : Operation → Bool
  | .isInvalidated _ => true
  | _ => false

def isRevocation : Operation → Bool
  | .invalidate _ _ => true
  | _ => false

theorem isCleanup_iff {op : Operation} : op.isCleanup = true ↔ op = .cleanup := by
  cases op <;> simp [isCleanup]

theorem isRevocation_iff {op : Operation} :
    op.isRevocation = true ↔ ∃ id ttl, op = .invalidate id ttl := by
  cases op <;> simp [isRevocation]

end Operation

namespace Run

variable {σ : Type}

/-- The time does not go back. -/
def IsOrdered (run : Run) : Prop :=
  run.Pairwise fun e e' => e.1 ≤ e'.1

def withoutCleanups (run : Run) : Run :=
  run.filter fun e => !e.2.isCleanup

def told (respond : Responder σ) (s : σ) (run : Run) : List (Except StoreError Answer) :=
  ((run.zip (answers respond s run)).filter fun p => p.1.2.isLookup).map Prod.snd

theorem told_cons (respond : Responder σ) (s : σ) (e : Int64 × Operation) (rest : Run) :
    told respond s (e :: rest) =
      (if e.2.isLookup then [(respond s e.1 e.2).map Prod.snd] else []) ++
        told respond (next respond s e) rest := by
  simp only [told, answers, List.zip_cons_cons, List.filter_cons]
  split <;> rfl

end Run

namespace Register

/-- Two tables agree from a second on if they differ in no entry that reaches it. -/
structure AgreeFrom (t : Int) (m m' : Register) : Prop where
  isOpen : m.isOpen = m'.isOpen
  find? : ∀ id, (m.expiries.find? id).filter (fun u => t ≤ u) =
    (m'.expiries.find? id).filter (fun u => t ≤ u)

variable {m m' m'' : Register} {t t' : Int} {now : Int64}

theorem AgreeFrom.refl (t : Int) (m : Register) : AgreeFrom t m m :=
  ⟨rfl, fun _ => rfl⟩

theorem AgreeFrom.trans (h : AgreeFrom t m m') (h' : AgreeFrom t m' m'') : AgreeFrom t m m'' :=
  ⟨h.isOpen.trans h'.isOpen, fun id => (h.find? id).trans (h'.find? id)⟩

theorem filter_filter_of_le (h : t ≤ t') (old : Option Int) :
    (old.filter fun u => t ≤ u).filter (fun u => t' ≤ u) = old.filter fun u => t' ≤ u := by
  rw [Option.filter_filter]
  congr 1
  funext u
  rw [← Bool.decide_and]
  exact decide_eq_decide.2 (and_iff_right_of_imp (Int.le_trans h))

theorem AgreeFrom.mono (h : AgreeFrom t m m') (ht : t ≤ t') : AgreeFrom t' m m' :=
  ⟨h.isOpen, fun id => by rw [← filter_filter_of_le ht, h.find?, filter_filter_of_le ht]⟩

theorem find?_opened (m : Register) (now : Int64) (id : String) :
    (m.opened now).expiries.find? id = (m.expiries.find? id).filter fun u => now.toInt ≤ u :=
  Dictionary.find?_filter m.expiries (fun e => now.toInt ≤ e.2) id

theorem AgreeFrom.opened (h : AgreeFrom now.toInt m m') :
    AgreeFrom now.toInt (m.opened now) (m'.opened now) :=
  ⟨rfl, fun id => by rw [find?_opened, find?_opened, h.find?]⟩

/-- A purge drops nothing that reaches the time of the purge. -/
theorem agreeFrom_opened (hopen : m.isOpen = true) (now : Int64) :
    AgreeFrom now.toInt (m.opened now) m :=
  ⟨hopen.symm, fun id => by rw [find?_opened, filter_filter_of_le (Int.le_refl _)]⟩

theorem now_le_deadline (now : Int64) (ttl : UInt64) : now.toInt ≤ deadline now ttl := by
  have hmax : lastSecond = 2 ^ 63 - 1 := rfl
  have hlt := now.toInt_lt
  rw [deadline]
  omega

/-- What has expired adds nothing to a revocation. -/
theorem latest_filter {new : Int} (h : t ≤ new) (old : Option Int) :
    (((old.filter fun u => t ≤ u).map (max · new)).getD new) =
      ((old.map (max · new)).getD new) := by
  cases old with
  | none => rfl
  | some u =>
      by_cases hu : t ≤ u
      · rw [Option.filter_some, if_pos (decide_eq_true hu)]
      · have hle : u ≤ new := by omega
        rw [Option.filter_some, if_neg (by simpa using hu)]
        exact (Int.max_eq_right hle).symm

/-- Tables that agree from the time of an operation on agree after it. -/
theorem AgreeFrom.next {e : Int64 × Operation} (h : AgreeFrom e.1.toInt m m') :
    AgreeFrom e.1.toInt (Run.next respond m e) (Run.next respond m' e) := by
  obtain ⟨now, op⟩ := e
  cases op with
  | invalidate id ttl =>
      rw [next_of_ifOpen rfl, next_of_ifOpen rfl, ← h.isOpen]
      split
      · refine ⟨rfl, fun other => ?_⟩
        rw [Dictionary.find?_insert, Dictionary.find?_insert]
        split
        -- the deadline is not before now, so that what has expired adds nothing to it
        · rw [← latest_filter (now_le_deadline now ttl), h.find?,
            latest_filter (now_le_deadline now ttl)]
        · exact h.find? other
      · exact h
  | isInvalidated id =>
      rw [next_of_ifOpen rfl, next_of_ifOpen rfl, ← h.isOpen]
      split <;> exact h
  | cleanup =>
      rw [next_of_ifOpen rfl, next_of_ifOpen rfl, ← h.isOpen]
      split
      · exact h.opened
      · exact h
  | deleteAll =>
      rw [next_of_ifOpen rfl, next_of_ifOpen rfl, ← h.isOpen]
      split
      · exact .refl _ _
      · exact h
  | close => exact ⟨rfl, h.find?⟩
  | reopen =>
      simp only [Run.next, respond, ← h.isOpen]
      cases m.isOpen with
      | false => exact h.opened
      | true => exact h
  | restart => exact h.opened

/-- A purge of one of two tables goes unnoticed. -/
theorem AgreeFrom.next_cleanup (h : AgreeFrom now.toInt m m') :
    AgreeFrom now.toInt (Run.next respond m (now, .cleanup)) m' := by
  rw [next_of_ifOpen rfl]
  split
  · next hopen => exact (agreeFrom_opened hopen now).trans h
  · exact h

/-- Tables that agree from now on answer alike to those who ask for an id. -/
theorem AgreeFrom.answer_eq (h : AgreeFrom now.toInt m m') (op : Operation) :
    (if op.isLookup then [(respond m now op).map Prod.snd] else []) =
      if op.isLookup then [(respond m' now op).map Prod.snd] else [] := by
  cases op with
  | isInvalidated id =>
      have hsame : (m.expiries.find? id).any (fun u => now.toInt ≤ u) =
          (m'.expiries.find? id).any (fun u => now.toInt ≤ u) := by
        rw [← Option.isSome_filter, ← Option.isSome_filter, h.find?]
      simp only [respond, ifOpen, map_ifOpen, hsame, h.isOpen]
  | _ => rfl

/-- In an ordered run, nobody who asks for an id notices the purges. -/
theorem AgreeFrom.told_eq (h : AgreeFrom t m m') {run : Run} (hrun : run.IsOrdered)
    (hfrom : ∀ e ∈ run, t ≤ e.1.toInt) :
    run.told respond m = run.withoutCleanups.told respond m' := by
  -- the tables agree from the time of whichever operation comes next
  induction run generalizing t m m' with
  | nil => rfl
  | cons e rest ih =>
      obtain ⟨hhead, hrest⟩ := List.pairwise_cons.1 hrun
      have hnow : AgreeFrom e.1.toInt m m' := h.mono (hfrom e List.mem_cons_self)
      have hlater : ∀ e' ∈ rest, e.1.toInt ≤ e'.1.toInt :=
        fun e' he' => Int64.le_iff_toInt_le.1 (hhead e' he')
      by_cases hop : e.2.isCleanup = true
      · obtain ⟨now, op⟩ := e
        obtain rfl := Operation.isCleanup_iff.1 hop
        exact ih hnow.next_cleanup hrest hlater
      · have hkept : Run.withoutCleanups (e :: rest) = e :: Run.withoutCleanups rest :=
          List.filter_cons_of_pos (by simpa using hop)
        rw [hkept, Run.told_cons, Run.told_cons, hnow.answer_eq, ih hnow.next hrest hlater]

/-! Revocations in another order. -/

theorem latest_comm (old : Option Int) (new new' : Int) :
    max ((old.map (max · new)).getD new) new' = max ((old.map (max · new')).getD new') new := by
  cases old with
  | none => exact Int.max_comm new new'
  | some u =>
      show max (max u new) new' = max (max u new') new
      omega

/-- Two revocations leave the same table in either order. -/
theorem next_invalidate_comm (m : Register) {e e' : Int64 × Operation}
    (he : e.2.isRevocation = true) (he' : e'.2.isRevocation = true) :
    Run.next respond (Run.next respond m e) e' = Run.next respond (Run.next respond m e') e := by
  obtain ⟨now, op⟩ := e
  obtain ⟨now', op'⟩ := e'
  obtain ⟨id, ttl, rfl⟩ := Operation.isRevocation_iff.1 he
  obtain ⟨id', ttl', rfl⟩ := Operation.isRevocation_iff.1 he'
  rw [next_of_ifOpen rfl, next_of_ifOpen rfl, next_of_ifOpen rfl, next_of_ifOpen rfl]
  cases hopen : m.isOpen with
  | false => simp only [hopen, Bool.false_eq_true, if_false]
  | true =>
      simp only [if_true, mk.injEq, and_true]
      refine Dictionary.ext_find? fun other => ?_
      by_cases hsame : id = id'
      · -- the second revocation finds the entry of the first
        subst hsame
        simp only [Dictionary.find?_insert, if_true, Option.map_some, Option.getD_some]
        rw [latest_comm]
        split <;> rfl
      · simp only [Dictionary.find?_insert, Ne.symm hsame, hsame, if_false]
        by_cases hid : other = id
        · have hid' : other ≠ id' := fun heq => hsame (hid.symm.trans heq)
          rw [if_pos hid, if_neg hid', if_pos hid]
        · rw [if_neg hid, if_neg hid]

/-- The order of revocations does not matter. -/
theorem after_perm (m : Register) {block block' : Run} (h : block.Perm block')
    (hblock : ∀ e ∈ block, e.2.isRevocation = true) :
    block.after respond m = block'.after respond m :=
  h.foldl_eq' (fun e he e' he' m => next_invalidate_comm m (hblock e he) (hblock e' he')) m

end Register

namespace Ledger

variable {l : Ledger}

theorem told_register (h : l.IsCovered) (run : Run) :
    run.told respond l = run.told Register.respond l.register := by
  rw [Run.told, Run.told, (refines_register h run).1]

/-- Those who ask for an id are told the same with and without purges. -/
theorem told_withoutCleanups (h : l.IsCovered) {run : Run} (hrun : run.IsOrdered) :
    run.withoutCleanups.told respond l = run.told respond l := by
  have hagree : Register.AgreeFrom Int64.minValue.toInt l.register l.register := .refl _ _
  rw [told_register h, told_register h, hagree.told_eq hrun fun e _ => e.1.minValue_le_toInt]

theorem answers_after_perm (h : l.IsCovered) {block block' : Run} (hperm : block.Perm block')
    (hblock : ∀ e ∈ block, e.2.isRevocation = true) (later : Run) :
    later.answers respond (block.after respond l) =
      later.answers respond (block'.after respond l) := by
  rw [(refines_register (isCovered_after h block) later).1,
    (refines_register (isCovered_after h block') later).1, (refines_register h block).2,
    (refines_register h block').2, Register.after_perm l.register hperm hblock]

/-- Whatever a ledger has been through, nobody who asks for an id while the time does not
go back can tell when it is purged, or whether it is at all; and nobody can tell in which
order ids were revoked, neither from what is said of them nor from what a purge drops. -/
theorem cleanup_is_unobservable (filter : Bloom) (sizing : Sizing) (stored : Dictionary Int64)
    (earlier : Run) :
    let l := earlier.after respond (behind filter sizing stored)
    (∀ run : Run, run.IsOrdered → run.withoutCleanups.told respond l = run.told respond l) ∧
      (∀ run run' : Run, run.IsOrdered → run'.IsOrdered →
        run.withoutCleanups = run'.withoutCleanups →
        run.told respond l = run'.told respond l) ∧
      ∀ block block' : Run, block.Perm block' → (∀ e ∈ block, e.2.isRevocation = true) →
        ∀ later : Run, later.answers respond (block.after respond l) =
          later.answers respond (block'.after respond l) := by
  intro l
  have hcovered : l.IsCovered := isCovered_after (isCovered_behind filter sizing stored) earlier
  refine ⟨fun run hrun => told_withoutCleanups hcovered hrun, fun run run' hrun hrun' hsame => ?_,
    fun block block' hperm hblock => answers_after_perm hcovered hperm hblock⟩
  rw [← told_withoutCleanups hcovered hrun, hsame, told_withoutCleanups hcovered hrun']

/-- An id is revoked again after its entry was dropped, and twice at once. -/
theorem cleanup_is_unobservable_between :
    let l := behind (.empty 64 1 (by decide)) ⟨10, 0.01⟩ .empty
    let run : Run := [(1000, .invalidate "abc" 10), (1011, .cleanup), (1011, .isInvalidated "abc"),
      (1011, .invalidate "abc" 5), (1016, .cleanup), (1016, .isInvalidated "abc")]
    let block : Run := [(1000, .invalidate "abc" 10), (1000, .invalidate "abc" 20)]
    run.IsOrdered ∧ run.told respond l = [.ok (.revoked false), .ok (.revoked true)] ∧
      Run.answers respond (block.after respond l) [(1015, .isInvalidated "abc"), (1030, .cleanup)] =
        Run.answers respond (Run.after respond l block.reverse)
          [(1015, .isInvalidated "abc"), (1030, .cleanup)] := by
  intro l run block
  obtain ⟨hdeleted, -, hperm⟩ :=
    cleanup_is_unobservable (.empty 64 1 (by decide)) ⟨10, 0.01⟩ .empty []
  have hordered : run.IsOrdered := by
    show List.Pairwise _ _
    decide
  refine ⟨hordered, ?_, hperm _ _ block.reverse_perm.symm (by decide) _⟩
  refine (hdeleted run hordered).symm.trans ?_
  exact (told_register (isCovered_behind _ _ _) run.withoutCleanups).trans rfl

end Ledger
end Revocation
end AuthGateway
