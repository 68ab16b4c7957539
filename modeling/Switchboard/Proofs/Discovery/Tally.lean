import Mathlib.Data.List.Induction
import Mathlib.Data.List.Nodup
import Mathlib.Data.List.Perm.Subperm
import Switchboard.Discovery.Token
import Switchboard.Roster

namespace Switchboard.Discovery

variable {t u : String} {n : Nat} {ts : List String}

theorem occurrences_cons (v : String) (k : Nat) (m : List (String × Nat)) (u : String) :
    occurrences ((v, k) :: m) u = if u = v then k else occurrences m u := by
  unfold occurrences
  by_cases h : u = v
  · rw [if_pos h, h, List.lookup_cons_self, Option.getD_some]
  · rw [if_neg h, List.lookup_cons, beq_false_of_ne h]

theorem occurrences_bump (t : String) (m : List (String × Nat)) (u : String) :
    occurrences (bump t m) u = occurrences m u + if u = t then 1 else 0 := by
  induction m with
  | nil =>
      rw [bump, occurrences_cons]
      split <;> rfl
  | cons p m ih =>
      obtain ⟨v, k⟩ := p
      unfold bump
      split
      · next hv =>
          subst hv
          rw [occurrences_cons, occurrences_cons]
          split <;> rfl
      · next hv =>
          rw [occurrences_cons, occurrences_cons, ih]
          by_cases hu : u = v
          · rw [if_pos hu, if_pos hu, if_neg (hu ▸ hv), Nat.add_zero]
          · rw [if_neg hu, if_neg hu]

theorem keys_bump (t : String) (m : List (String × Nat)) :
    (bump t m).map Prod.fst =
      if t ∈ m.map Prod.fst then m.map Prod.fst else m.map Prod.fst ++ [t] := by
  induction m with
  | nil => rfl
  | cons p m ih =>
      obtain ⟨v, k⟩ := p
      unfold bump
      by_cases hv : v = t
      · rw [if_pos hv, if_pos (by simp [hv])]
        rfl
      · have hmem : t ∈ ((v, k) :: m).map Prod.fst ↔ t ∈ m.map Prod.fst := by
          rw [List.map_cons, List.mem_cons, or_iff_right (Ne.symm hv)]
        rw [if_neg hv, List.map_cons, ih]
        simp only [hmem]
        split <;> rfl

theorem tally_concat (ts : List String) (t : String) : tally (ts ++ [t]) = bump t (tally ts) := by
  rw [tally, List.foldl_append]
  rfl

structure Tabulates (m : List (String × Nat)) (f : String → Nat) : Prop where
  distinct : (m.map Prod.fst).Nodup
  mem_keys_iff : ∀ t, t ∈ m.map Prod.fst ↔ 0 < f t
  occurrences_eq : ∀ t, occurrences m t = f t

namespace Tabulates

variable {m : List (String × Nat)} {f : String → Nat} (h : Tabulates m f)
include h

theorem bump (t : String) : Tabulates (bump t m) fun u => f u + if u = t then 1 else 0 where
  distinct := by
    rw [keys_bump]
    split
    · exact h.distinct
    · next ht => exact h.distinct.append (List.nodup_singleton t) (by simpa using ht)
  mem_keys_iff u := by
    have hkeys := h.mem_keys_iff u
    rw [keys_bump]
    by_cases hu : u = t
    · subst hu
      rw [if_pos rfl]
      refine iff_of_true ?_ (Nat.succ_pos _)
      split
      · next ht => exact ht
      · exact List.mem_append_right _ (List.mem_singleton_self u)
    · rw [if_neg hu, Nat.add_zero, ← hkeys]
      split
      · rfl
      · rw [List.mem_append, List.mem_singleton, or_iff_left hu]
  occurrences_eq u := by rw [occurrences_bump, h.occurrences_eq]

theorem eq_of_mem (hm : (t, n) ∈ m) : n = f t := by
  have hcount := h.occurrences_eq t
  rw [occurrences, Roster.lookup_of_mem h.distinct hm] at hcount
  exact hcount

theorem mem_iff : (t, n) ∈ m ↔ 0 < n ∧ n = f t := by
  constructor
  · intro hm
    have hn := h.eq_of_mem hm
    exact ⟨hn ▸ (h.mem_keys_iff t).1 (List.mem_map_of_mem hm), hn⟩
  · rintro ⟨hpos, rfl⟩
    obtain ⟨⟨v, n⟩, hm, hv⟩ := List.mem_map.1 ((h.mem_keys_iff t).2 hpos)
    obtain rfl : v = t := hv
    exact h.eq_of_mem hm ▸ hm

theorem lookup_eq (t : String) : m.lookup t = if 0 < f t then some (f t) else none := by
  split
  · next hpos => exact Roster.lookup_of_mem h.distinct (h.mem_iff.2 ⟨hpos, rfl⟩)
  · next hzero =>
      rw [Roster.lookup_eq_none_iff, h.mem_keys_iff]
      exact hzero

end Tabulates

theorem tabulates_tally (ts : List String) : Tabulates (tally ts) ts.count := by
  induction ts using List.reverseRecOn with
  | nil =>
      refine ⟨List.nodup_nil, fun u => ?_, fun u => rfl⟩
      exact iff_of_false List.not_mem_nil (Nat.lt_irrefl 0)
  | append_singleton ts t ih =>
      have hcount : (ts ++ [t]).count = fun u => ts.count u + if u = t then 1 else 0 := by
        funext u
        rw [List.count_append, List.count_singleton]
        simp only [beq_iff_eq, eq_comm (a := u)]
      rw [tally_concat, hcount]
      exact ih.bump t

theorem occurrences_tally (ts : List String) (u : String) : occurrences (tally ts) u = ts.count u :=
  (tabulates_tally ts).occurrences_eq u

theorem mem_keys_tally (ts : List String) : u ∈ (tally ts).map Prod.fst ↔ u ∈ ts :=
  ((tabulates_tally ts).mem_keys_iff u).trans List.count_pos_iff

theorem nodup_keys_tally (ts : List String) : ((tally ts).map Prod.fst).Nodup :=
  (tabulates_tally ts).distinct

theorem mem_tally_iff : (t, n) ∈ tally ts ↔ t ∈ ts ∧ n = ts.count t := by
  rw [(tabulates_tally ts).mem_iff, ← List.count_pos_iff]
  exact and_congr_left fun h => h ▸ Iff.rfl

theorem pos_of_mem_tally {p : String × Nat} (h : p ∈ tally ts) : 0 < p.2 := by
  obtain ⟨ht, hn⟩ := mem_tally_iff.1 h
  exact hn ▸ List.count_pos_iff.2 ht

theorem le_length_of_mem_tally {p : String × Nat} (h : p ∈ tally ts) : p.2 ≤ ts.length :=
  (mem_tally_iff.1 h).2 ▸ List.count_le_length

theorem length_tally_le (ts : List String) : (tally ts).length ≤ ts.length := by
  rw [← List.length_map Prod.fst]
  exact ((nodup_keys_tally ts).subperm fun _ => (mem_keys_tally ts).1).length_le

end Switchboard.Discovery
