import AuthGateway.Proofs.Dictionary
import AuthGateway.Proofs.FilterBits
import AuthGateway.Revocation.Store

/-!
The ledger behind its filter. The filter holds every id that has an entry, so
that what the ledger says of an id depends on its entry alone: it is revoked as
long as the time of the entry has not passed.
-/
namespace AuthGateway

namespace Time

theorem ofSeconds_toInt (n : UInt64) :
    (ofSeconds n).toInt = min (n.toNat : Int) Int64.maxValue.toInt := by
  have hmin : Int64.minValue.toInt = -2 ^ 63 := rfl
  have hmax : Int64.maxValue.toInt = 2 ^ 63 - 1 := rfl
  rw [ofSeconds, toInt_clamp]
  omega

/-- A span that reaches forward is cut off only at the end of the range. -/
theorem span_toInt_of_lt {start stop : Int64} (h : start < stop) :
    (span start stop).toInt = min (stop.toInt - start.toInt) Int64.maxValue.toInt := by
  have hmin : Int64.minValue.toInt = -2 ^ 63 := rfl
  have hmax : Int64.maxValue.toInt = 2 ^ 63 - 1 := rfl
  have hlt := Int64.lt_iff_toInt_lt.1 h
  rw [toInt_span]
  omega

theorem span_pos_iff (start stop : Int64) : 0 < span start stop ↔ start < stop := by
  have hmin : Int64.minValue.toInt = -2 ^ 63 := rfl
  have hmax : Int64.maxValue.toInt = 2 ^ 63 - 1 := rfl
  rw [Int64.lt_iff_toInt_lt, Int64.lt_iff_toInt_lt, toInt_span, Int64.toInt_zero]
  omega

end Time

namespace Revocation

namespace Ledger

/-- An open ledger whose filter holds all ids that have an entry. -/
structure IsSound (l : Ledger) : Prop where
  isOpen : l.isOpen = true
  covered : ∀ id, (l.entries.find? id).isSome → l.filter.mayContain id = true

def standsAt (now : Int64) : Option Int64 → Bool
  | some t => now ≤ t
  | none => false

theorem isInvalidated_of_sound {l : Ledger} (h : l.IsSound) (now : Int64) (id : String) :
    l.isInvalidated now id = .ok (standsAt now (l.entries.find? id)) := by
  have hcovered := h.covered id
  simp only [isInvalidated, h.isOpen, if_true]
  cases hfind : l.entries.find? id with
  | none => simp [standsAt]
  | some t => simp [standsAt, hcovered (by simp [hfind])]

theorem isSound_ofEntries (sizing : Sizing) (now : Int64) (entries : Dictionary Int64) :
    (ofEntries sizing now entries).IsSound :=
  ⟨rfl, fun _ h => Bloom.mayContain_insertAll _ (Dictionary.mem_names_of_find? h)⟩

theorem find?_ofEntries (sizing : Sizing) (now : Int64) (entries : Dictionary Int64) (id : String) :
    (ofEntries sizing now entries).entries.find? id =
      (entries.find? id).filter fun t => decide (now ≤ t) :=
  Dictionary.find?_filter entries (isLive now) id

theorem invalidate_of_sound {l : Ledger} (h : l.IsSound) (now : Int64) (id : String) (ttl : UInt64) :
    ∃ l', l.invalidate now id ttl = .ok l' ∧ l'.IsSound ∧ ∀ other, l'.entries.find? other =
      if other = id then some (later (l.entries.find? id) (expiry now ttl))
      else l.entries.find? other := by
  have hfind := Dictionary.find?_insert id (later (l.entries.find? id) (expiry now ttl)) l.entries
  refine ⟨_, if_pos h.isOpen, ⟨h.isOpen, fun other hother => ?_⟩, hfind⟩
  rw [hfind] at hother
  split at hother
  · next heq => exact heq ▸ Bloom.mayContain_insert_self l.filter other
  · exact Bloom.mayContain_insert_of (h.covered other hother) id

theorem cleanup_of_sound {l : Ledger} (h : l.IsSound) (now : Int64) :
    ∃ l' purged, l.cleanup now = .ok (l', purged) ∧ l'.IsSound ∧ ∀ id, l'.entries.find? id =
      (l.entries.find? id).filter fun t => decide (now ≤ t) :=
  ⟨_, _, if_pos h.isOpen, isSound_ofEntries _ now l.entries,
    find?_ofEntries _ now l.entries⟩

/-- Revoking for the seconds that are left of a session lasts until it expires. -/
theorem expiry_of_remaining {now stop : Int64} (hnow : 0 ≤ now) (h : now < stop) :
    expiry now (Time.span now stop).toUInt64 = stop := by
  have hmin : Int64.minValue.toInt = -2 ^ 63 := rfl
  have hmax : Int64.maxValue.toInt = 2 ^ 63 - 1 := rfl
  have hpositive := Int64.le_iff_toInt_le.1 hnow
  have hstop := stop.toInt_lt
  have hspan := Time.span_toInt_of_lt h
  have hle : 0 ≤ Time.span now stop := by
    have hlt := (Time.span_pos_iff now stop).2 h
    rw [Int64.lt_iff_toInt_lt] at hlt
    exact Int64.le_iff_toInt_le.2 (by omega)
  have hseconds : ((Time.span now stop).toUInt64.toNat : Int) = (Time.span now stop).toInt := by
    rw [Int64.toNat_toUInt64_of_le hle]
    exact Int.toNat_of_nonneg (Int64.le_iff_toInt_le.1 hle)
  rw [Int64.toInt_zero] at hpositive
  refine Int64.toInt_inj.1 ?_
  rw [expiry, Time.toInt_after, Time.ofSeconds_toInt, hseconds, hspan]
  omega

/-- An entry that does not stand any more gives way to the new time. -/
theorem later_of_not_stands {old : Option Int64} {now new : Int64}
    (h : standsAt now old = false) (hnew : now ≤ new) : later old new = new := by
  cases old with
  | none => rfl
  | some t =>
      have hpast : ¬ now ≤ t := by simpa [standsAt] using h
      have hle : t ≤ new := by
        rw [Int64.le_iff_toInt_le] at hpast hnew ⊢
        omega
      exact if_pos hle

end Ledger

namespace Store

open Ledger (standsAt expiry later)

def entry? (s : Store) (id : String) : Option Int64 :=
  match s with
  | .ledger l => l.entries.find? id
  | _ => none

def IsSound (s : Store) : Prop :=
  ∃ l, s = .ledger l ∧ l.IsSound

variable {s : Store}

/-- A sound store answers in time, and by the entry of the id. -/
theorem lookup_of_sound (h : s.IsSound) (patience : Nat) (now : Int64) (id : String) :
    s.lookup patience now id = if standsAt now (s.entry? id) then .revoked else .notRevoked := by
  obtain ⟨l, rfl, hl⟩ := h
  have hanswer := Ledger.isInvalidated_of_sound hl now id
  cases hstands : standsAt now (l.entries.find? id) with
  | false =>
      rw [hstands] at hanswer
      simp only [lookup, delay, isInvalidated, hanswer, entry?, hstands, Nat.not_lt_zero]
      rfl
  | true =>
      rw [hstands] at hanswer
      simp only [lookup, delay, isInvalidated, hanswer, entry?, hstands, Nat.not_lt_zero]
      rfl

theorem revoke_of_sound (h : s.IsSound) (patience : Nat) (now : Int64) (id : String) (ttl : UInt64) :
    ∃ s', s.revoke patience now id ttl = (s', true) ∧ s'.IsSound ∧ ∀ other, s'.entry? other =
      if other = id then some (later (s.entry? id) (expiry now ttl)) else s.entry? other := by
  obtain ⟨l, rfl, hl⟩ := h
  obtain ⟨l', hl', hsound, hfind⟩ := Ledger.invalidate_of_sound hl now id ttl
  refine ⟨.ledger l', ?_, ⟨l', rfl, hsound⟩, hfind⟩
  simp only [revoke, invalidate, hl', Except.map, delay, Nat.zero_le, decide_true]

theorem cleanup_of_sound (h : s.IsSound) (now : Int64) :
    ∃ s' purged, s.cleanup now = .ok (s', purged) ∧ s'.IsSound ∧ ∀ id, s'.entry? id =
      (s.entry? id).filter fun t => decide (now ≤ t) := by
  obtain ⟨l, rfl, hl⟩ := h
  obtain ⟨l', purged, hl', hsound, hfind⟩ := Ledger.cleanup_of_sound hl now
  refine ⟨.ledger l', purged, ?_, ⟨l', rfl, hsound⟩, hfind⟩
  simp only [cleanup, hl', Except.map]

end Store

end Revocation

end AuthGateway
