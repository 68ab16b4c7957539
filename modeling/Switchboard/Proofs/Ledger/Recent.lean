import Mathlib.Data.List.Induction
import Switchboard.Proofs.Ledger.Retention

namespace Switchboard.Ledger

variable {α : Type} {capacity : Option Nat} {l : Ledger} {all : List TraceRecord}

theorem newest_newest (m n : Nat) (l : List α) : newest m (newest n l) = newest (min m n) l := by
  simp only [newest, List.length_drop, List.drop_drop]
  congr 1
  omega

theorem newest_min_length (n : Nat) (l : List α) : newest (min n l.length) l = newest n l := by
  simp only [newest]
  congr 1
  omega

def addAll (l : Ledger) (adds : List (Instant × Trace)) : Ledger :=
  adds.foldl (fun l a => (l.add a.1 a.2).2) l

theorem addAll_append (l : Ledger) (before after : List (Instant × Trace)) :
    l.addAll (before ++ after) = (l.addAll before).addAll after :=
  List.foldl_append

def made (supply : IdSupply) (adds : List (Instant × Trace)) : List TraceRecord :=
  adds.mapIdx fun n a => ⟨supply.id (n + 1), a.1, a.2⟩

theorem supply_addAll (l : Ledger) (adds : List (Instant × Trace)) :
    (l.addAll adds).supply = l.supply := by
  induction adds generalizing l with
  | nil => rfl
  | cons a adds ih => exact ih (l.add a.1 a.2).2

theorem retains_addAll (supply : IdSupply) (capacity : Option Nat)
    (adds : List (Instant × Trace)) :
    ((start supply capacity).addAll adds).Retains capacity (made supply adds) := by
  induction adds using List.reverseRecOn with
  | nil => exact retains_start supply capacity
  | append_singleton adds a ih =>
      have hmade : made supply (adds ++ [a]) =
          made supply adds ++ [⟨supply.id ((made supply adds).length + 1), a.1, a.2⟩] := by
        simp [made, List.mapIdx_append]
      have hnext := ih.add a.1 a.2
      rw [supply_addAll] at hnext
      rw [addAll_append, hmade]
      exact hnext

theorem recent_of_pos {limit : Nat} (h : 0 < limit) : l.recent limit = newest limit l.records := by
  rw [recent, if_pos (by exact_mod_cast h)]
  rfl

theorem Retains.records_eq (h : l.Retains capacity all) :
    l.records = newest l.records.length all := by
  rw [h.length, h.records]
  cases capacity with
  | none => simp [retain, newest]
  | some n => exact (newest_min_length n all).symm

theorem Retains.recent_of_pos (h : l.Retains capacity all) {limit : Nat} (hlimit : 0 < limit) :
    l.recent limit = newest (min limit l.records.length) all := by
  rw [← newest_newest, ← h.records_eq, Ledger.recent_of_pos hlimit]

structure Lists (l : Ledger) (capacity : Option Nat) (all : List TraceRecord) : Prop where
  retained : l.records.length = capacity.elim all.length (min · all.length)
  honours : ∀ limit : Nat,
    l.recent limit = newest (min limit l.records.length) all ↔ 0 < limit ∨ l.records = []
  zero : l.recent 0 = newest l.records.length all

theorem Retains.lists (h : l.Retains capacity all) : l.Lists capacity all := by
  refine ⟨h.length, fun limit => ?_, h.records_eq⟩
  rcases Nat.eq_zero_or_pos limit with rfl | hlimit
  · change l.records = newest (min 0 l.records.length) all ↔ _
    have hnone : newest (min 0 l.records.length) all = [] := by simp [newest]
    rw [hnone, or_iff_right (Nat.lt_irrefl 0)]
  · exact iff_of_true (h.recent_of_pos hlimit) (.inl hlimit)

end Switchboard.Ledger
