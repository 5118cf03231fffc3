import AuthGateway.Proofs.Ledger

/-!
The ledger without its filter. Every sequence of calls gets the answers of a
plain map from ids to the last second of their revocation, in which nothing is
ever asked of a filter and times are integers. What keeps the filter out of sight
is that it holds all ids of the table after each call, also after those that
replace it. A revocation therefore lasts at least as long as it was made for.
-/
namespace AuthGateway

namespace Revocation

/-- What may be asked of a ledger. A restart lets go of it, closed or not, and
opens what is stored; reopening is tried beside whoever has it open. -/
inductive Operation where
  | invalidate (id : String) (ttl : UInt64)
  | isInvalidated (id : String)
  | cleanup
  | deleteAll
  | close
  | reopen
  | restart

inductive Answer where
  | done
  | revoked (b : Bool)
  | dropped (n : Nat)
deriving DecidableEq

/-- Operations with the time at which each is asked for; it may go back. -/
abbrev Run := List (Int64 × Operation)

namespace Run

variable {σ τ : Type}

abbrev Responder (σ : Type) := σ → Int64 → Operation → Except StoreError (σ × Answer)

/-- A failed operation changes nothing. -/
def next (respond : Responder σ) (s : σ) (e : Int64 × Operation) : σ :=
  match respond s e.1 e.2 with
  | .ok (s', _) => s'
  | .error _ => s

def after (respond : Responder σ) (s : σ) (run : Run) : σ :=
  run.foldl (next respond) s

def answers (respond : Responder σ) : σ → Run → List (Except StoreError Answer)
  | _, [] => []
  | s, e :: rest =>
    (respond s e.1 e.2).map Prod.snd :: answers respond (next respond s e) rest

/-- A property that every successful operation of a run preserves. -/
theorem preserved {respond : Responder σ} {P : σ → Prop} {run : Run}
    (hstep : ∀ e ∈ run, ∀ s s' a, P s → respond s e.1 e.2 = .ok (s', a) → P s') {s : σ} (h : P s) :
    P (after respond s run) := by
  induction run generalizing s with
  | nil => exact h
  | cons e rest ih =>
      refine ih (fun e' he' => hstep e' (List.mem_cons_of_mem _ he')) ?_
      unfold next
      split
      · next heq => exact hstep e List.mem_cons_self s _ _ h heq
      · exact h

/-- A view of the states that all responses respect, as long as an invariant
holds, is a view of the whole run. -/
theorem refines {respond : Responder σ} {respond' : Responder τ} {view : σ → τ} {P : σ → Prop}
    (hview : ∀ s now op, P s →
      respond' (view s) now op = (respond s now op).map fun r => (view r.1, r.2))
    (hstep : ∀ s now op s' a, P s → respond s now op = .ok (s', a) → P s') {s : σ} (h : P s)
    (run : Run) :
    answers respond s run = answers respond' (view s) run ∧
      view (after respond s run) = after respond' (view s) run := by
  induction run generalizing s with
  | nil => exact ⟨rfl, rfl⟩
  | cons e rest ih =>
      have hresponse := hview s e.1 e.2 h
      have hnext : next respond' (view s) e = view (next respond s e) := by
        unfold next
        rw [hresponse]
        cases respond s e.1 e.2 <;> rfl
      -- what fails changes nothing, so that the invariant holds on
      have hinv : P (next respond s e) := by
        unfold next
        split
        · next heq => exact hstep s e.1 e.2 _ _ h heq
        · exact h
      obtain ⟨hanswers, hafter⟩ := ih hinv
      constructor
      · simp only [answers, hresponse, hnext, hanswers]
        cases respond s e.1 e.2 <;> rfl
      · simp only [after, List.foldl_cons, hnext] at hafter ⊢
        exact hafter

end Run

theorem map_ifOpen {α β : Type} (f : α → β) (b : Bool) (a : α) (e : StoreError) :
    (if b then .ok a else .error e : Except StoreError α).map f =
      if b then .ok (f a) else .error e := by
  cases b <;> rfl

theorem ifOpen_eq_ok_iff {α : Type} {b : Bool} {a a' : α} {e : StoreError} :
    (if b then .ok a else .error e : Except StoreError α) = .ok a' ↔ b = true ∧ a = a' := by
  cases b <;> simp

/-- The plain map: up to which second each id is revoked. -/
structure Register where
  expiries : Dictionary Int
  isOpen : Bool

namespace Register

def lastSecond : Int := Int64.maxValue.toInt

/-- The second up to which a revocation lasts; it stops at the end of time. -/
def deadline (now : Int64) (ttl : UInt64) : Int :=
  min (now.toInt + min (ttl.toNat : Int) lastSecond) lastSecond

def ifOpen (m : Register) (response : Register × Answer) : Except StoreError (Register × Answer) :=
  if m.isOpen then .ok response else .error .closed

def opened (m : Register) (now : Int64) : Register :=
  ⟨m.expiries.filter fun e => now.toInt ≤ e.2, true⟩

def respond : Run.Responder Register
  | m, now, .invalidate id ttl =>
    m.ifOpen ({ m with
      expiries := m.expiries.insert id
        (((m.expiries.find? id).map (max · (deadline now ttl))).getD (deadline now ttl)) }, .done)
  | m, now, .isInvalidated id =>
    m.ifOpen (m, .revoked ((m.expiries.find? id).any fun t => now.toInt ≤ t))
  | m, now, .cleanup =>
    m.ifOpen (m.opened now, .dropped (m.expiries.filter fun e => e.2 < now.toInt).size)
  | m, _, .deleteAll => m.ifOpen (⟨.empty, true⟩, .dropped m.expiries.size)
  | m, _, .close => .ok ({ m with isOpen := false }, .done)
  | m, now, .reopen => if m.isOpen then .error .alreadyOpen else .ok (m.opened now, .done)
  | m, now, .restart => .ok (m.opened now, .done)

end Register

namespace Ledger

def respond : Run.Responder Ledger
  | l, now, .invalidate id ttl => (l.invalidate now id ttl).map fun l' => (l', .done)
  | l, now, .isInvalidated id => (l.isInvalidated now id).map fun b => (l, .revoked b)
  | l, now, .cleanup => (l.cleanup now).map fun (l', n) => (l', .dropped n)
  | l, _, .deleteAll => l.deleteAll.map fun (l', n) => (l', .dropped n)
  | l, _, .close => .ok (l.close, .done)
  | l, now, .reopen => (l.reopen now).map fun l' => (l', .done)
  | l, now, .restart => (l.close.reopen now).map fun l' => (l', .done)

def register (l : Ledger) : Register :=
  ⟨l.entries.map Int64.toInt, l.isOpen⟩

def behind (filter : Bloom) (sizing : Sizing) (stored : Dictionary Int64) : Ledger :=
  ⟨stored, filter.insertAll (stored.entries.map Prod.fst), sizing, true⟩

def IsCovered (l : Ledger) : Prop :=
  ∀ id, (l.entries.find? id).isSome → l.filter.mayContain id = true

variable {l : Ledger}

theorem isCovered_behind (filter : Bloom) (sizing : Sizing) (stored : Dictionary Int64) :
    (behind filter sizing stored).IsCovered :=
  fun _ h => Bloom.mayContain_insertAll _ (Dictionary.mem_names_of_find? h)

theorem ofEntries_eq_behind (sizing : Sizing) (now : Int64) (entries : Dictionary Int64) :
    ofEntries sizing now entries =
      behind (Bloom.ofCapacity ((entries.filter (isLive now)).size + sizing.expectedInsertions)
        sizing.falsePositiveRate) sizing (entries.filter (isLive now)) :=
  rfl

theorem isCovered_ofEntries (sizing : Sizing) (now : Int64) (entries : Dictionary Int64) :
    (ofEntries sizing now entries).IsCovered := by
  rw [ofEntries_eq_behind]
  exact isCovered_behind _ _ _

theorem isCovered_insert (h : l.IsCovered) (id : String) (t : Int64) :
    IsCovered { l with entries := l.entries.insert id t, filter := l.filter.insert id } := by
  intro other hother
  rw [Dictionary.find?_insert] at hother
  split at hother
  · next heq => exact heq ▸ Bloom.mayContain_insert_self l.filter other
  · exact Bloom.mayContain_insert_of (h other hother) id

/-- No operation puts an id into the table that the filter does not hold. -/
theorem isCovered_respond (h : l.IsCovered) {now : Int64} {op : Operation} {l' : Ledger}
    {a : Answer} (hl' : l.respond now op = .ok (l', a)) : l'.IsCovered := by
  -- the filter grows with the table, or is made anew of all that is left of it
  cases op with
  | invalidate id ttl =>
      simp only [respond, invalidate, map_ifOpen, ifOpen_eq_ok_iff] at hl'
      obtain ⟨-, hl', -⟩ := hl'
      exact isCovered_insert h id _
  | isInvalidated id =>
      simp only [respond, isInvalidated, map_ifOpen, ifOpen_eq_ok_iff] at hl'
      obtain ⟨-, rfl, -⟩ := hl'
      exact h
  | cleanup =>
      simp only [respond, cleanup, map_ifOpen, ifOpen_eq_ok_iff] at hl'
      obtain ⟨-, rfl, -⟩ := hl'
      exact isCovered_ofEntries l.sizing now l.entries
  | deleteAll =>
      simp only [respond, deleteAll, map_ifOpen, ifOpen_eq_ok_iff] at hl'
      obtain ⟨-, rfl, -⟩ := hl'
      exact isCovered_ofEntries l.sizing 0 .empty
  | close =>
      obtain ⟨rfl, -⟩ := Prod.mk.inj (Except.ok.inj hl')
      exact h
  | reopen =>
      simp only [respond, reopen] at hl'
      split at hl'
      · cases hl'
      · obtain ⟨rfl, -⟩ := Prod.mk.inj (Except.ok.inj hl')
        exact isCovered_ofEntries l.sizing now l.entries
  | restart =>
      obtain ⟨rfl, -⟩ := Prod.mk.inj (Except.ok.inj hl')
      exact isCovered_ofEntries l.sizing now l.entries

/-! What the table shows of each operation, if the filter is left out. -/

theorem toInt_expiry (now : Int64) (ttl : UInt64) :
    (expiry now ttl).toInt = Register.deadline now ttl := by
  have hmin : Int64.minValue.toInt = -2 ^ 63 := rfl
  have hmax : Int64.maxValue.toInt = 2 ^ 63 - 1 := rfl
  have hlow := now.le_toInt
  rw [expiry, Time.toInt_after, Time.ofSeconds_toInt, Register.deadline, Register.lastSecond]
  omega

theorem toInt_later (old : Option Int64) (new : Int64) :
    (later old new).toInt = ((old.map Int64.toInt).map (max · new.toInt)).getD new.toInt := by
  cases old with
  | none => rfl
  | some t =>
      simp only [later, Option.map_some, Option.getD_some]
      by_cases h : t ≤ new
      · rw [show max t new = new from if_pos h, Int.max_eq_right (Int64.le_iff_toInt_le.1 h)]
      · have hle : new.toInt ≤ t.toInt := by
          rw [Int64.le_iff_toInt_le] at h
          omega
        rw [show max t new = t from if_neg h, Int.max_eq_left hle]

theorem opened_register (l : Ledger) (now : Int64) :
    l.register.opened now = (ofEntries l.sizing now l.entries).register := by
  have hlive : ∀ e : String × Int64, decide (now.toInt ≤ e.2.toInt) = isLive now e :=
    fun e => decide_eq_decide.2 Int64.le_iff_toInt_le.symm
  simp only [register, ofEntries, Register.opened,
    Dictionary.filter_map Int64.toInt (fun e => now.toInt ≤ e.2) (isLive now) hlive]

theorem size_expired (l : Ledger) (now : Int64) :
    (l.register.expiries.filter fun e => e.2 < now.toInt).size =
      l.entries.size - (ofEntries l.sizing now l.entries).entries.size := by
  have hexpired : ∀ e : String × Int64, decide (e.2.toInt < now.toInt) = !isLive now e := by
    intro e
    rw [isLive, ← decide_not]
    exact decide_eq_decide.2 (by rw [Int64.le_iff_toInt_le]; omega)
  have hkept : (ofEntries l.sizing now l.entries).entries = l.entries.filter (isLive now) := rfl
  have hall := Dictionary.size_filter_add (isLive now) l.entries
  rw [hkept, register,
    Dictionary.filter_map Int64.toInt (fun e => e.2 < now.toInt) (fun e => !isLive now e) hexpired,
    Dictionary.size_map]
  omega

theorem lookup_register (h : l.IsCovered) (now : Int64) (id : String) :
    (l.register.expiries.find? id).any (fun t => now.toInt ≤ t) =
      (l.filter.mayContain id && standsAt now (l.entries.find? id)) := by
  have hcovered := h id
  rw [register, Dictionary.find?_map]
  cases hfind : l.entries.find? id with
  | none => rw [Option.map_none, Option.any_none, standsAt, Bool.and_false]
  | some t =>
      rw [hcovered (by rw [hfind, Option.isSome_some]), Bool.true_and, Option.map_some,
        Option.any_some]
      exact decide_eq_decide.2 Int64.le_iff_toInt_le.symm

/-- With its filter, a ledger responds as its table alone does. -/
theorem respond_register (h : l.IsCovered) (now : Int64) (op : Operation) :
    l.register.respond now op = (l.respond now op).map fun r => (r.1.register, r.2) := by
  cases op with
  | invalidate id ttl =>
      have hinsert := Dictionary.insert_map Int64.toInt id
        (later (l.entries.find? id) (expiry now ttl)) l.entries
      rw [toInt_later, toInt_expiry, ← Dictionary.find?_map] at hinsert
      simp only [respond, invalidate, map_ifOpen]
      exact congrArg (fun d => l.register.ifOpen ({ l.register with expiries := d }, .done)) hinsert
  | isInvalidated id =>
      simp only [respond, isInvalidated, map_ifOpen]
      -- this alone asks the filter, which holds the id if it has an entry
      exact congrArg (fun b => l.register.ifOpen (l.register, .revoked b))
        (lookup_register h now id)
  | cleanup =>
      have hopened := opened_register l now
      have hdropped := size_expired l now
      simp only [respond, cleanup, map_ifOpen, Register.respond, hopened, hdropped]
      rfl
  | deleteAll =>
      have hsize := Dictionary.size_map Int64.toInt l.entries
      simp only [respond, deleteAll, map_ifOpen]
      exact congrArg (fun n => l.register.ifOpen (⟨.empty, true⟩, .dropped n)) hsize
  | close => rfl
  | reopen =>
      have hopen : l.register.isOpen = l.isOpen := rfl
      simp only [respond, reopen, Register.respond, hopen, opened_register]
      split <;> rfl
  | restart =>
      simp only [respond, Register.respond, opened_register]
      rfl

end Ledger

namespace Register

structure AgreeOn (id : String) (m m' : Register) : Prop where
  isOpen : m.isOpen = m'.isOpen
  find? : m.expiries.find? id = m'.expiries.find? id

/-- What may change what is said of an id: everything but revoking another one. -/
def concerns (id : String) : Int64 × Operation → Bool
  | (_, .invalidate other _) => other = id
  | _ => true

variable {id : String} {m m' : Register}

theorem AgreeOn.opened (h : AgreeOn id m m') (now : Int64) :
    AgreeOn id (m.opened now) (m'.opened now) := by
  refine ⟨rfl, ?_⟩
  simp only [Register.opened, Dictionary.find?_filter, h.find?]

theorem next_of_ifOpen {x : Register} {a : Answer} {e : Int64 × Operation}
    (h : m.respond e.1 e.2 = m.ifOpen (x, a)) :
    Run.next respond m e = if m.isOpen then x else m := by
  rw [Run.next, h, ifOpen]
  cases m.isOpen <;> rfl

theorem AgreeOn.ifOpen (h : AgreeOn id m m') {x x' : Register} (hx : AgreeOn id x x') :
    AgreeOn id (if m.isOpen then x else m) (if m'.isOpen then x' else m') := by
  rw [← h.isOpen]
  split
  · exact hx
  · exact h

/-- What is said of an id depends on what was said of it, whatever is said of others. -/
theorem AgreeOn.next (h : AgreeOn id m m') (e : Int64 × Operation) :
    AgreeOn id (Run.next respond m e) (Run.next respond m' e) := by
  obtain ⟨now, op⟩ := e
  cases op with
  | invalidate other ttl =>
      rw [next_of_ifOpen rfl, next_of_ifOpen rfl]
      refine h.ifOpen ⟨h.isOpen, ?_⟩
      rw [Dictionary.find?_insert, Dictionary.find?_insert]
      by_cases hid : id = other
      · rw [if_pos hid, if_pos hid, ← hid, h.find?]
      · rw [if_neg hid, if_neg hid, h.find?]
  | isInvalidated other =>
      rw [next_of_ifOpen rfl, next_of_ifOpen rfl]
      exact h.ifOpen h
  | cleanup =>
      rw [next_of_ifOpen rfl, next_of_ifOpen rfl]
      exact h.ifOpen (h.opened now)
  | deleteAll =>
      rw [next_of_ifOpen rfl, next_of_ifOpen rfl]
      exact h.ifOpen ⟨rfl, rfl⟩
  | close => exact ⟨rfl, h.find?⟩
  | reopen =>
      simp only [Run.next, respond, ← h.isOpen]
      cases m.isOpen with
      | false => exact h.opened now
      | true => exact h
  | restart => exact h.opened now

theorem AgreeOn.next_of_not_concerns (h : AgreeOn id m m') {e : Int64 × Operation}
    (he : concerns id e = false) : AgreeOn id (Run.next respond m e) m' := by
  obtain ⟨now, op⟩ := e
  cases op with
  | invalidate other ttl =>
      have hid : id ≠ other := fun heq => of_decide_eq_false he heq.symm
      rw [next_of_ifOpen rfl]
      split
      · exact ⟨h.isOpen, by rw [Dictionary.find?_insert, if_neg hid, h.find?]⟩
      · exact h
  | _ => cases he

theorem AgreeOn.after (h : AgreeOn id m m') (run : Run) :
    AgreeOn id (run.after respond m) (Run.after respond m' (run.filter (concerns id))) := by
  induction run generalizing m m' with
  | nil => exact h
  | cons e rest ih =>
      cases he : concerns id e with
      | true =>
          rw [List.filter_cons_of_pos he]
          exact ih (h.next e)
      | false =>
          rw [List.filter_cons_of_neg (by rw [he]; exact Bool.false_ne_true)]
          exact ih (h.next_of_not_concerns he)

end Register

namespace Ledger

variable {l : Ledger}

theorem refines_register (h : l.IsCovered) (run : Run) :
    run.answers respond l = run.answers Register.respond l.register ∧
      (run.after respond l).register = run.after Register.respond l.register :=
  Run.refines (fun _ now op hs => respond_register hs now op)
    (fun _ _ _ _ _ hs hok => isCovered_respond hs hok) h run

theorem isCovered_after (h : l.IsCovered) (run : Run) : (run.after respond l).IsCovered :=
  Run.preserved (fun _ _ _ _ _ hs hok => isCovered_respond hs hok) h

theorem isInvalidated_of_covered (h : l.IsCovered) (now : Int64) (id : String) :
    l.isInvalidated now id =
      if l.isOpen then .ok ((l.register.expiries.find? id).any fun t => now.toInt ≤ t)
      else .error .closed := by
  rw [lookup_register h]
  rfl

/-- Every run of a ledger, whatever its filter, gets the answers of the plain map and
leaves its table. The filter holds every id of the table, and what is answered of an
id does not depend on the others that were revoked. -/
theorem filter_is_invisible (filter : Bloom) (sizing : Sizing) (stored : Dictionary Int64)
    (run : Run) :
    let l := behind filter sizing stored
    let m := Register.mk (stored.map Int64.toInt) true
    run.answers respond l = run.answers Register.respond m ∧
      (run.after respond l).register = run.after Register.respond m ∧
      (run.after respond l).IsCovered ∧
      ∀ id now, (run.after respond l).isInvalidated now id =
        (Run.after respond l (run.filter (Register.concerns id))).isInvalidated now id := by
  intro l m
  have hcovered : l.IsCovered := isCovered_behind filter sizing stored
  obtain ⟨hanswers, hafter⟩ := refines_register hcovered run
  refine ⟨hanswers, hafter, isCovered_after hcovered run, fun id now => ?_⟩
  have hsame : Register.AgreeOn id l.register l.register := ⟨rfl, rfl⟩
  have hagree := hsame.after run
  rw [← hafter, ← (refines_register hcovered _).2] at hagree
  rw [isInvalidated_of_covered (isCovered_after hcovered run),
    isInvalidated_of_covered (isCovered_after hcovered _), hagree.find?]
  exact congrArg (fun b : Bool => if b then _ else _) hagree.isOpen

/-! How long a revocation lasts. -/

/-- What leaves a revocation up to a second alone: purging only before it has passed,
and neither emptying nor closing the ledger. -/
def Spares (stop : Int) : Int64 × Operation → Prop
  | (now, .cleanup) | (now, .reopen) | (now, .restart) => now.toInt ≤ stop
  | (_, .deleteAll) | (_, .close) => False
  | _ => True

structure Revokes (l : Ledger) (id : String) (stop : Int) : Prop where
  isOpen : l.isOpen = true
  covered : l.filter.mayContain id = true
  stands : ∃ t, l.entries.find? id = some t ∧ stop ≤ t.toInt

variable {id : String} {stop : Int}

theorem Revokes.isInvalidated (h : l.Revokes id stop) {now : Int64} (hnow : now.toInt ≤ stop) :
    l.isInvalidated now id = .ok true := by
  obtain ⟨t, ht, hstop⟩ := h.stands
  have hle : now ≤ t := Int64.le_iff_toInt_le.2 (by omega)
  simp [Ledger.isInvalidated, h.isOpen, h.covered, ht, hle]

theorem le_later (old : Option Int64) (new : Int64) : new.toInt ≤ (later old new).toInt := by
  rw [toInt_later]
  cases old with
  | none => exact Int.le_refl _
  | some t => exact Int.le_max_right _ _

theorem Revokes.insert (h : l.Revokes id stop) (other : String) (new : Int64) :
    Revokes { l with
      entries := l.entries.insert other (later (l.entries.find? other) new)
      filter := l.filter.insert other } id stop := by
  obtain ⟨t, ht, hstop⟩ := h.stands
  refine ⟨h.isOpen, Bloom.mayContain_insert_of h.covered other, ?_⟩
  by_cases hid : id = other
  · refine ⟨later (some t) new, ?_, ?_⟩
    · rw [Dictionary.find?_insert, if_pos hid, ← hid, ht]
    · rw [toInt_later]
      exact Int.le_trans hstop (Int.le_max_left _ _)
  · exact ⟨t, by rw [Dictionary.find?_insert, if_neg hid, ht], hstop⟩

theorem revokes_invalidate {t : Int64} {ttl : UInt64} {l' : Ledger}
    (h : l.invalidate t id ttl = .ok l') : l'.Revokes id (Register.deadline t ttl) := by
  simp only [invalidate, ifOpen_eq_ok_iff] at h
  obtain ⟨hopen, rfl⟩ := h
  refine ⟨hopen, Bloom.mayContain_insert_self l.filter id,
    later (l.entries.find? id) (expiry t ttl), ?_, ?_⟩
  · exact (Dictionary.find?_insert _ _ _ _).trans (if_pos rfl)
  · rw [← toInt_expiry]
    exact le_later _ _

theorem Revokes.ofEntries (h : l.Revokes id stop) {now : Int64} (hnow : now.toInt ≤ stop) :
    (Ledger.ofEntries l.sizing now l.entries).Revokes id stop := by
  obtain ⟨t, ht, hstop⟩ := h.stands
  have hlive : decide (now ≤ t) = true := decide_eq_true (Int64.le_iff_toInt_le.2 (by omega))
  have hfind : (Ledger.ofEntries l.sizing now l.entries).entries.find? id = some t := by
    rw [find?_ofEntries, ht, Option.filter_some, if_pos hlive]
  -- the filter is a new one, into which the id was put again
  exact ⟨rfl, isCovered_ofEntries _ _ _ id (by rw [hfind, Option.isSome_some]), t, hfind, hstop⟩

/-- An operation that spares a revocation leaves the id revoked. -/
theorem Revokes.respond (h : l.Revokes id stop) {now : Int64} {op : Operation}
    (he : Spares stop (now, op)) {l' : Ledger} {a : Answer}
    (hl' : l.respond now op = .ok (l', a)) : l'.Revokes id stop := by
  cases op with
  | invalidate other ttl =>
      simp only [Ledger.respond, invalidate, map_ifOpen, ifOpen_eq_ok_iff] at hl'
      obtain ⟨-, hl', -⟩ := hl'
      exact h.insert other (expiry now ttl)
  | isInvalidated other =>
      simp only [Ledger.respond, Ledger.isInvalidated, map_ifOpen, ifOpen_eq_ok_iff] at hl'
      obtain ⟨-, rfl, -⟩ := hl'
      exact h
  | cleanup =>
      simp only [Ledger.respond, cleanup, map_ifOpen, ifOpen_eq_ok_iff] at hl'
      obtain ⟨-, rfl, -⟩ := hl'
      exact h.ofEntries he
  | deleteAll => exact he.elim
  | close => exact he.elim
  | reopen =>
      simp only [Ledger.respond, reopen, h.isOpen, if_true] at hl'
      cases hl'
  | restart =>
      obtain ⟨rfl, -⟩ := Prod.mk.inj (Except.ok.inj hl')
      exact h.ofEntries he

/-- From a successful call on, an id stays revoked up to the second that was asked for,
whatever else the ledger is asked to do but to be emptied, closed or purged past it. -/
theorem revoked_up_to_deadline {t : Int64} {ttl : UInt64} {l' : Ledger}
    (h : l.invalidate t id ttl = .ok l') {run : Run}
    (hrun : ∀ e ∈ run, Spares (Register.deadline t ttl) e) {now : Int64}
    (hnow : now.toInt ≤ Register.deadline t ttl) :
    (run.after Ledger.respond l').isInvalidated now id = .ok true := by
  have hafter : (run.after Ledger.respond l').Revokes id (Register.deadline t ttl) := by
    refine Run.preserved (P := (Revokes · id (Register.deadline t ttl))) ?_ (revokes_invalidate h)
    exact fun e he s s' a hs hok => hs.respond (hrun e he) hok
  exact hafter.isInvalidated hnow

/-- A shorter revocation in between, a purge at the last second and a restart. -/
theorem revoked_at_last_second :
    ∃ l', (Ledger.empty ⟨10, 0.01⟩).invalidate 1000 "abc" 100 = .ok l' ∧
      (Run.after Ledger.respond l' [(1050, .invalidate "abc" 10), (1100, .cleanup),
        (900, .invalidate "other" 5), (1100, .restart)]).isInvalidated 1100 "abc" = .ok true := by
  have hrevoked : (Ledger.empty ⟨10, 0.01⟩).invalidate 1000 "abc" 100 = .ok _ := rfl
  refine ⟨_, hrevoked, revoked_up_to_deadline hrevoked ?_ (by decide)⟩
  intro e he
  simp only [List.mem_cons, List.not_mem_nil, or_false] at he
  rcases he with rfl | rfl | rfl | rfl
  · trivial
  · exact (by decide : (1100 : Int64).toInt ≤ Register.deadline 1000 100)
  · trivial
  · exact (by decide : (1100 : Int64).toInt ≤ Register.deadline 1000 100)

end Ledger
end Revocation
end AuthGateway
