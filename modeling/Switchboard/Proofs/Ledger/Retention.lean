import Switchboard.Ledger
import Switchboard.Proofs.Number.Conversion

namespace Switchboard

namespace Ledger

variable {α : Type} {capacity : Option Nat} {l : Ledger} {all : List TraceRecord}

theorem newest_suffix (n : Nat) (l : List α) : newest n l <:+ l := List.drop_suffix _ l

theorem length_newest (n : Nat) (l : List α) : (newest n l).length = min n l.length := by
  rw [newest, List.length_drop]
  omega

theorem newest_concat (n : Nat) (l : List α) (a : α) :
    newest n (newest n l ++ [a]) = newest n (l ++ [a]) := by
  have hkept : newest n l ++ [a] <:+ l ++ [a] := by
    obtain ⟨dropped, hl⟩ := newest_suffix n l
    exact ⟨dropped, by rw [← List.append_assoc, hl]⟩
  have hlength : (newest n (newest n l ++ [a])).length = (newest n (l ++ [a])).length := by
    simp only [length_newest, List.length_append, List.length_singleton]
    omega
  have hs := List.suffix_of_suffix_length_le ((newest_suffix n _).trans hkept)
    (newest_suffix n _) hlength.le
  exact hs.eq_of_length hlength

theorem retain_concat (capacity : Option Nat) (l : List α) (a : α) :
    retain capacity (retain capacity l ++ [a]) = retain capacity (l ++ [a]) := by
  cases capacity with
  | none => rfl
  | some n => exact newest_concat n l a

theorem retain_suffix (capacity : Option Nat) (l : List α) : retain capacity l <:+ l := by
  cases capacity with
  | none => exact List.suffix_refl l
  | some n => exact newest_suffix n l

theorem length_retain (capacity : Option Nat) (l : List α) :
    (retain capacity l).length = capacity.elim l.length (min · l.length) := by
  cases capacity with
  | none => rfl
  | some n => exact length_newest n l

structure Retains (l : Ledger) (capacity : Option Nat) (all : List TraceRecord) : Prop where
  bound : l.capacity = capacity
  issued : l.issued = all.length
  records : l.records = retain capacity all
  ids : all.map TraceRecord.id = (List.range all.length).map fun n => l.supply.id (n + 1)

theorem retains_start (supply : IdSupply) (capacity : Option Nat) :
    (start supply capacity).Retains capacity [] where
  bound := rfl
  issued := rfl
  records := (List.suffix_nil.1 (retain_suffix capacity [])).symm
  ids := rfl

theorem Retains.add (h : l.Retains capacity all) (time : Instant) (t : Trace) :
    (l.add time t).2.Retains capacity (all ++ [⟨l.supply.id (all.length + 1), time, t⟩]) where
  bound := h.bound
  issued := by rw [List.length_append]; exact congrArg (· + 1) h.issued
  records := by
    change retain l.capacity (l.records ++ [⟨l.supply.id (l.issued + 1), time, t⟩]) = _
    rw [h.bound, h.issued, h.records, retain_concat]
  ids := by
    rw [List.map_append, h.ids, List.length_append, List.length_singleton, List.range_succ,
      List.map_append]
    rfl

theorem Retains.nodup (h : l.Retains capacity all) : (all.map TraceRecord.id).Nodup := by
  rw [h.ids]
  refine List.Nodup.map ?_ List.nodup_range
  intro m n hmn
  exact Nat.succ.inj (l.supply.inj hmn)

theorem Retains.suffix (h : l.Retains capacity all) : l.records <:+ all :=
  h.records ▸ retain_suffix capacity all

theorem Retains.length (h : l.Retains capacity all) :
    l.records.length = capacity.elim all.length (min · all.length) :=
  h.records ▸ length_retain capacity all

theorem find_of_forall_ne {id : String} (h : ∀ r ∈ l.records, r.id ≠ id) :
    l.find id = .error (.unknownTrace id) := by
  have hnone : l.records.find? (fun r => r.id = id) = none := by
    simpa [List.find?_eq_none] using h
  rw [find, hnone]

theorem find_of_mem (hn : (l.records.map TraceRecord.id).Nodup) {r : TraceRecord}
    (hr : r ∈ l.records) : l.find r.id = .ok r := by
  cases hf : l.records.find? (fun s => s.id = r.id) with
  | none =>
      have := List.find?_eq_none.1 hf r hr
      simp at this
  | some s =>
      have hs := List.mem_of_find?_eq_some hf
      have hid : s.id = r.id := by simpa using List.find?_some hf
      rw [find, hf, List.inj_on_of_nodup_map hn hs hr hid]

theorem Retains.find_retained (h : l.Retains capacity all) {r : TraceRecord}
    (hr : r ∈ l.records) : l.find r.id = .ok r :=
  find_of_mem (h.nodup.sublist (h.suffix.sublist.map _)) hr

theorem Retains.find_evicted (h : l.Retains capacity all) {r : TraceRecord} (hr : r ∈ all)
    (hn : r ∉ l.records) : l.find r.id = .error (.unknownTrace r.id) := by
  refine find_of_forall_ne fun s hs hid => hn ?_
  rwa [← List.inj_on_of_nodup_map h.nodup (h.suffix.subset hs) hr hid]

theorem foldl_add_real (x : Float) {ns : List Number} (hn : ∀ n ∈ ns, ∃ y, n = .real y) :
    ∃ z, ns.foldlM Number.add (.real x) = .ok (.real z) := by
  induction ns generalizing x with
  | nil => exact ⟨x, rfl⟩
  | cons n ns ih =>
      obtain ⟨⟨y, rfl⟩, hns⟩ := List.forall_mem_cons.1 hn
      exact ih (x + y) hns

theorem sum_of_real {ns : List Number} (hne : ns ≠ []) (hn : ∀ n ∈ ns, ∃ y, n = .real y) :
    ∃ z, sum ns = .ok (.real z) := by
  cases ns with
  | nil => exact absurd rfl hne
  | cons n ns =>
      obtain ⟨⟨y, rfl⟩, hns⟩ := List.forall_mem_cons.1 hn
      exact foldl_add_real (0.0 + y) hns

theorem toReal_natCast {n : Nat} (h : n ≤ 2 ^ 1023) : ∃ x, Number.toReal (.whole n) = .ok x := by
  have hneg : decide ((n : Int) < 0) = false := decide_eq_false (by omega)
  have hfin := Number.isFinite_natCast h
  refine ⟨Number.Binary.toFloat ⟨false, n, 0⟩, ?_⟩
  simp only [Number.toReal, Number.ofInt?, hneg, Int.natAbs_natCast, hfin, if_true]

theorem exists_average (hne : l.records ≠ [])
    (hlatency : ∀ r ∈ l.records, ∃ x, r.trace.latencyMs = .real x)
    (hsize : l.records.length ≤ 2 ^ 1023) :
    ∃ x, (do Number.divNat (← sum l.latencies) l.records.length : Except _ Float) = .ok x := by
  have hreal : ∀ n ∈ l.latencies, ∃ x, n = .real x := by
    intro n hn
    obtain ⟨r, hr, rfl⟩ := List.mem_map.1 (List.mem_mergeSort.1 hn)
    exact hlatency r hr
  have hsome : l.latencies ≠ [] := by
    rw [latencies, ← List.length_pos_iff, List.length_mergeSort, List.length_map]
    exact List.length_pos_iff.2 hne
  obtain ⟨z, hsum⟩ := sum_of_real hsome hreal
  obtain ⟨n, hn⟩ := toReal_natCast hsize
  refine ⟨z / n, ?_⟩
  rw [hsum]
  change (do .ok (z / (← Number.toReal (.whole l.records.length))) : Except _ Float) = _
  rw [hn]
  rfl

theorem summary_of_average (hne : l.records ≠ []) {x : Float}
    (h : (do Number.divNat (← sum l.latencies) l.records.length : Except _ Float) = .ok x) :
    l.summary = .ok ⟨l.records.length, Number.ofRatio l.errors l.records.length, l.rejections, x,
      (l.latencies[p95Index l.records.length]?).getD (.real 0.0)⟩ := by
  have hz : l.records.length ≠ 0 := fun hz => hne (List.length_eq_zero_iff.1 hz)
  unfold summary
  dsimp only
  rw [if_neg hz, h]
  rfl

structure Reports (records : List TraceRecord) (s : Summary) : Prop where
  total : s.total = records.length
  rate : s.errorRate =
    if records = [] then 0.0
    else Number.ofRatio (records.countP fun r => !r.trace.ok) records.length
  rejections : s.rejections = records.countP fun r => r.trace.errorKind = some "circuit_open"
  fewer : s.rejections ≤ records.countP fun r => !r.trace.ok

theorem summary_reports (hlatency : ∀ r ∈ l.records, ∃ x, r.trace.latencyMs = .real x)
    (hshut : ∀ r ∈ l.records, r.trace.errorKind = some "circuit_open" → r.trace.ok = false)
    (hsize : l.records.length ≤ 2 ^ 1023) : ∃ s, l.summary = .ok s ∧ Reports l.records s := by
  have hfewer : l.rejections ≤ l.errors := by
    refine List.countP_mono_left fun r hr h => ?_
    rw [hshut r hr (of_decide_eq_true h)]
    rfl
  by_cases hnil : l.records = []
  · refine ⟨.empty, ?_, ?_⟩
    · rw [summary, hnil]
      rfl
    · rw [hnil]
      exact ⟨rfl, (if_pos rfl).symm, rfl, Nat.le_refl _⟩
  · obtain ⟨x, hx⟩ := exists_average hnil hlatency hsize
    exact ⟨_, summary_of_average hnil hx, rfl, (if_neg hnil).symm, rfl, hfewer⟩

end Ledger

end Switchboard
