import Switchboard.Proofs.Ledger.Place
import Switchboard.Proofs.Ledger.Retention
import Switchboard.Proofs.Number.Order

namespace Switchboard

theorem lt_countP_iff {α : Type} {p : α → Bool} {l : List α}
    (h : l.Pairwise fun a b => p b = true → p a = true) (k : Nat) :
    k < l.countP p ↔ ∃ a, l[k]? = some a ∧ p a = true := by
  induction l generalizing k with
  | nil => simp
  | cons a l ih =>
      obtain ⟨ha, hl⟩ := List.pairwise_cons.1 h
      cases hp : p a with
      | true =>
          rw [List.countP_cons_of_pos hp]
          cases k with
          | zero => simp [hp]
          | succ k => rw [Nat.succ_lt_succ_iff, ih hl, List.getElem?_cons_succ]
      | false =>
          -- nothing behind the first that fails passes
          have hnone (b : α) (hb : b ∈ l) : ¬ p b = true := fun hb' => by simp [ha b hb hb'] at hp
          have hzero : l.countP p = 0 := List.countP_eq_zero.2 hnone
          rw [List.countP_cons_of_neg (by simp [hp]), hzero]
          refine iff_of_false (Nat.not_lt_zero k) ?_
          rintro ⟨b, hb, hpb⟩
          rcases List.mem_cons.1 (List.mem_of_getElem? hb) with rfl | hm
          · rw [hp] at hpb
            cases hpb
          · exact hnone b hm hpb

namespace Ledger

variable {l : Ledger} {s : Summary}

def withinMs (l : Ledger) (a : Number) : Nat := l.records.countP fun r => r.trace.latencyMs.le a

theorem length_latencies (l : Ledger) : l.latencies.length = l.records.length := by
  rw [latencies, List.length_mergeSort, List.length_map]

theorem mem_latencies_iff {a : Number} :
    a ∈ l.latencies ↔ ∃ r ∈ l.records, r.trace.latencyMs = a := by
  rw [latencies, List.mem_mergeSort, List.mem_map]

theorem withinMs_eq (l : Ledger) (a : Number) : l.withinMs a = l.latencies.countP (·.le a) := by
  rw [latencies, (List.mergeSort_perm _ _).countP_eq, List.countP_map]
  rfl

theorem p95_of_summary (hne : l.records ≠ []) (h : l.summary = .ok s) :
    l.latencies[p95Index l.records.length]? = some s.p95Ms := by
  have hpos : 0 < l.records.length := List.length_pos_iff.2 hne
  have hlt : p95Index l.records.length < l.latencies.length := by
    rw [length_latencies]
    exact p95Index_lt hpos
  cases ha : (do Number.divNat (← sum l.latencies) l.records.length : Except _ Float) with
  | error e =>
      unfold summary at h
      dsimp only at h
      rw [if_neg hpos.ne', ha] at h
      cases h
  | ok x =>
      rw [summary_of_average hne ha] at h
      cases h
      rw [List.getElem?_eq_getElem hlt, Option.getD_some]

section Ordered

variable (hnumber : ∀ r ∈ l.records, r.trace.latencyMs.Ordered)

include hnumber

theorem ordered_latencies {a : Number} (ha : a ∈ l.latencies) : a.Ordered := by
  obtain ⟨r, hr, rfl⟩ := mem_latencies_iff.1 ha
  exact hnumber r hr

theorem lt_withinMs_iff {a : Number} (ha : a.Ordered) (k : Nat) :
    k < l.withinMs a ↔ ∃ b, l.latencies[k]? = some b ∧ b.le a = true := by
  have hsorted := Number.pairwise_sorted (l := l.records.map fun r => r.trace.latencyMs)
    fun b hb => ordered_latencies hnumber (List.mem_mergeSort.2 hb)
  rw [withinMs_eq]
  refine lt_countP_iff (hsorted.imp_of_mem fun {b c} hb hc hbc hca => ?_) k
  have hb := ordered_latencies hnumber hb
  rw [Number.le_iff_rank (ordered_latencies hnumber hc) ha] at hca
  exact (Number.le_iff_rank hb ha).2 (hbc.trans hca)

theorem lt_withinMs_p95 (hne : l.records ≠ []) (h : l.summary = .ok s) :
    p95Index l.records.length < l.withinMs s.p95Ms := by
  have hp := p95_of_summary hne h
  have ho := ordered_latencies hnumber (List.mem_of_getElem? hp)
  exact (lt_withinMs_iff hnumber ho _).2 ⟨_, hp, (Number.le_iff_rank ho ho).2 le_rfl⟩

end Ordered

/-- The place is that of the whole number of traces at or below 95 in a hundred, as long as the
doubles can tell it, so that one trace is wanting to 95 in a hundred wherever these are no whole
number. -/
theorem p95_is_rounded_down (l : Ledger) (hne : l.records ≠ [])
    (hnumber : ∀ r ∈ l.records, r.trace.latencyMs.Ordered) :
    let n := l.records.length
    p95Index n < n ∧
    (∀ s, l.summary = .ok s →
      (∃ r ∈ l.records, r.trace.latencyMs = s.p95Ms) ∧ p95Index n < l.withinMs s.p95Ms ∧
      (n ≤ 2 ^ 49 → n * 95 / 100 ≤ l.withinMs s.p95Ms ∧
        (95 * n ≤ 100 * l.withinMs s.p95Ms ↔
          20 ∣ n ∨ n = 1 ∨
            ∃ a, l.latencies[p95Index n + 1]? = some a ∧ a.le s.p95Ms = true))) ∧
    ((∀ r ∈ l.records, ∃ x, r.trace.latencyMs = .real x) → n ≤ 2 ^ 1023 →
      ∃ s, l.summary = .ok s) := by
  intro n
  have hpos : 0 < n := List.length_pos_iff.2 hne
  refine ⟨p95Index_lt hpos, ?_, ?_⟩
  · intro s hs
    have hp := p95_of_summary hne hs
    have hmem := List.mem_of_getElem? hp
    have hlow := lt_withinMs_p95 hnumber hne hs
    have hnext := lt_withinMs_iff hnumber (ordered_latencies hnumber hmem) (p95Index n + 1)
    rw [← hnext]
    refine ⟨mem_latencies_iff.1 hmem, hlow, fun hn => ?_⟩
    change p95Index n < _ at hlow
    generalize l.withinMs s.p95Ms = count at *
    rw [p95Index_eq hn] at *
    exact ⟨by omega, by omega⟩
  · intro hlatency hsize
    obtain ⟨x, hx⟩ := exists_average hne hlatency hsize
    exact ⟨_, summary_of_average hne hx⟩

def called (ms : Float) : Trace := ⟨"b", "t", .obj [], "", .real ms, true, .closed, none⟩

def pair : Ledger := (((start .traces none).add .epoch (called 1.0)).2.add .epoch (called 2.0)).2

theorem pair_ne_nil : pair.records ≠ [] := by
  simp [pair, add, start, retain]

theorem latency_pair {r : TraceRecord} (hr : r ∈ pair.records) :
    ∃ x, r.trace.latencyMs = .real x ∧ Number.IsNumber x := by
  have hone : (1.0 : Float).toModel.unpack = .finite .positive (2 ^ 52) (-52) (by norm_num) := by
    rfl
  have htwo : (2.0 : Float).toModel.unpack = .finite .positive (2 ^ 52) (-51) (by norm_num) := by
    rfl
  rcases List.mem_pair.1 hr with rfl | rfl
  · exact ⟨1.0, rfl, by simp [Number.IsNumber, hone]⟩
  · exact ⟨2.0, rfl, by simp [Number.IsNumber, htwo]⟩

theorem exists_summary_pair :
    ∃ x, pair.summary = .ok ⟨2, Number.ofRatio 0 2, 0, x, .real 1.0⟩ := by
  have hlatencies : pair.latencies = [.real 1.0, .real 2.0] :=
    List.mergeSort_of_pairwise (by decide +kernel)
  have hsize : pair.records.length ≤ 2 ^ 1 := by decide
  obtain ⟨x, hx⟩ := exists_average pair_ne_nil (fun r hr => (latency_pair hr).imp fun _ h => h.1)
    (hsize.trans (pow_le_pow_right₀ one_le_two (by norm_num)))
  refine ⟨x, (summary_of_average pair_ne_nil hx).trans ?_⟩
  rw [hlatencies]
  rfl

theorem p95_is_rounded_down_pair :
    pair.records ≠ [] ∧ (∀ r ∈ pair.records, r.trace.latencyMs.Ordered) ∧
      pair.records.length ≤ 2 ^ 49 ∧
      ∃ s, pair.summary = .ok s ∧ (∃ r ∈ pair.records, r.trace.latencyMs = s.p95Ms) ∧
        1 ≤ pair.withinMs s.p95Ms := by
  have hnumber : ∀ r ∈ pair.records, r.trace.latencyMs.Ordered := by
    intro r hr
    obtain ⟨x, hx, hnumber⟩ := latency_pair hr
    rw [hx]
    exact hnumber
  obtain ⟨x, hs⟩ := exists_summary_pair
  obtain ⟨hmem, -, hwithin⟩ := (p95_is_rounded_down pair pair_ne_nil hnumber).2.1 _ hs
  have hsize : pair.records.length ≤ 2 ^ 49 := by decide
  exact ⟨pair_ne_nil, hnumber, hsize, _, hs, hmem, (hwithin hsize).1⟩

theorem half_within_p95 :
    ∃ s, pair.summary = .ok s ∧ pair.records.length = 2 ∧ pair.withinMs s.p95Ms = 1 ∧
      ¬ 95 * pair.records.length ≤ 100 * pair.withinMs s.p95Ms := by
  obtain ⟨x, hs⟩ := exists_summary_pair
  have hwithin : pair.withinMs (.real 1.0) = 1 := by decide +kernel
  refine ⟨_, hs, rfl, hwithin, ?_⟩
  rw [hwithin]
  decide

end Ledger

end Switchboard
