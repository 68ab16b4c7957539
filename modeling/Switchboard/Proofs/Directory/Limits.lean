import Switchboard.Proofs.Directory.Ancestry
import Switchboard.Proofs.Number.Value
import Switchboard.Proofs.Validation.Passed

namespace Switchboard

namespace Budget

structure Valid (b : Budget) : Prop where
  cost : ∀ x, b.maxCost = some x → x ≥ 0.0
  ttl : ∀ x, b.ttlHours = some x → x ≥ 0.0

theorem amount_valid {members : List (String × Json)} {name : String} {a : Option Float}
    (h : Reader.defaulted members name (.optional .amount) none = .passed a) {x : Float}
    (hx : a = some x) : x ≥ 0.0 := by
  subst hx
  rcases Reader.defaulted_eq_passed h with hn | ⟨j, hj⟩
  · cases hn
  · obtain ⟨j, hj⟩ := Reader.optional_eq_passed hj
    exact Reader.amount_eq_passed hj

theorem valid_of_read {stranger : Complaint} {j : Json} {b : Budget}
    (h : read stranger j = .passed b) : b.Valid := by
  obtain ⟨members, h⟩ := Reader.record_eq_passed h
  obtain ⟨g₂, ttl, h₂, httl, rfl⟩ := Checked.seq_eq_passed_iff.1 h
  obtain ⟨g₁, cost, h₁, hcost, rfl⟩ := Checked.seq_eq_passed_iff.1 h₂
  obtain ⟨calls, -, rfl⟩ := Checked.map_eq_passed_iff.1 h₁
  exact ⟨fun x hx => amount_valid hcost hx, fun x hx => amount_valid httl hx⟩

end Budget

theorem AgentRequest.valid_of_read {stranger inner : Complaint} {j : Json} {r : AgentRequest}
    (h : AgentRequest.read stranger inner j = .passed r) : r.budget.Valid := by
  obtain ⟨members, h⟩ := Reader.record_eq_passed h
  obtain ⟨g₄, budget, h₄, hb, rfl⟩ := Checked.seq_eq_passed_iff.1 h
  obtain ⟨g₃, scopes, h₃, -, rfl⟩ := Checked.seq_eq_passed_iff.1 h₄
  obtain ⟨g₂, parent, h₂, -, rfl⟩ := Checked.seq_eq_passed_iff.1 h₃
  obtain ⟨g₁, tenant, h₁, -, rfl⟩ := Checked.seq_eq_passed_iff.1 h₂
  obtain ⟨name, -, rfl⟩ := Checked.map_eq_passed_iff.1 h₁
  rcases Reader.defaulted_eq_passed hb with rfl | ⟨j, hj⟩
  · exact ⟨fun _ h => (by cases h), fun _ h => (by cases h)⟩
  · exact Budget.valid_of_read hj

namespace Directory

def Unbroken {α : Type} (d : Directory) (limit : Budget → Option α) (n : Nat) (i : Identity) : Prop :=
  ∀ k b, k ≤ n → d.climb k i = some b → ∃ x, limit b.mandate.budget = some x

variable {d : Directory} {id : String} {i a : Identity} {n : Nat}

theorem Unbroken.up {α : Type} {limit : Budget → Option α} {p : Identity}
    (h : d.Unbroken limit (n + 1) i) (hp : d.parentOf i = some p) : d.Unbroken limit n p := by
  intro k b hk hb
  refine h (k + 1) b (by omega) ?_
  rw [climb, hp, Option.bind_some, hb]

theorem Kinship.limit_climb {α : Type} [Preorder α] {limit : Budget → Option α} (h : Kinship d)
    (hstep : ∀ i p : Identity, d.get? i.id = some i → d.get? p.id = some p → i.IsChildOf p →
      ∀ x y, limit i.mandate.budget = some x → limit p.mandate.budget = some y → x ≤ y)
    (hi : d.get? id = some i) (ha : d.climb n i = some a) (hu : d.Unbroken limit n i) {x y : α}
    (hx : limit i.mandate.budget = some x) (hy : limit a.mandate.budget = some y) : x ≤ y := by
  induction n generalizing id i x with
  | zero =>
      rw [climb, Option.some.injEq] at ha
      rw [← ha, hx, Option.some.injEq] at hy
      exact hy.le
  | succ n ih =>
      obtain ⟨p, hp, ha⟩ := Option.bind_eq_some_iff.1 ha
      obtain ⟨hget, -, hc⟩ := h.parentOf_eq hi hp
      have hpn := hu.up hp
      obtain ⟨z, hz⟩ := hpn 0 p (Nat.zero_le n) rfl
      have hid : d.get? i.id = some i := (h.named id i hi).symm ▸ hi
      exact (hstep i p hid hget hc x z hx hz).trans (ih hget ha hpn hz)

theorem Granted.budget_eq {r : AgentRequest} {m : Mandate} (h : Granted d r m) :
    m.budget = r.budget := by
  cases h <;> rfl

theorem valid_act {ids : Nat → String} (deed : Deed)
    (hd : ∀ r now, deed = .create r now → r.budget.Valid)
    (hv : ∀ id i, d.get? id = some i → i.mandate.budget.Valid) (id : String) (i : Identity)
    (hi : (act ids d deed).get? id = some i) : i.mandate.budget.Valid := by
  cases deed with
  | create r now =>
      rcases agents_create ids d r now with ha | ⟨new, m, expires, hm, -, ha⟩
      · rw [get?, ha] at hi
        exact hv id i hi
      · rw [get?, ha, Roster.get?_put] at hi
        split at hi
        · cases hi
          exact hm.budget_eq ▸ hd r now rfl
        · exact hv id i hi
  | revoke k =>
      obtain ⟨j, hj, -, hm⟩ := get?_revoke_of_get? hi
      exact hm ▸ hv id j hj

theorem valid_run (ids : Nat → String) (deeds : List Deed)
    (hd : ∀ r now, Deed.create r now ∈ deeds → r.budget.Valid) (id : String) (i : Identity)
    (hi : (run ids deeds).get? id = some i) : i.mandate.budget.Valid := by
  induction deeds using List.reverseRecOn generalizing id i with
  | nil => simp [run, runFrom, get?, empty] at hi
  | append_singleton deeds deed ih =>
      rw [run_concat] at hi
      refine valid_act deed (fun r now he => hd r now (by simp [he])) ?_ id i hi
      exact ih fun r now hr => hd r now (List.mem_append_left _ hr)

theorem value_le_of_not_gt {x y : Float} (hx : x ≥ 0.0) (hy : y ≥ 0.0) (h : ¬ x > y) :
    Number.value x ≤ Number.value y := by
  have hx := ((Number.le_iff 0.0 x).1 hx).2.1
  have hy := ((Number.le_iff 0.0 y).1 hy).2.1
  by_contra hlt
  exact h ((Number.lt_iff y x).2 ⟨hy, hx, lt_of_not_ge hlt⟩)

theorem le_of_value_le {x y : Float} (hx : x ≥ 0.0) (hy : y ≥ 0.0)
    (h : Number.value x ≤ Number.value y) : x ≤ y :=
  (Number.le_iff x y).2 ⟨((Number.le_iff 0.0 x).1 hx).2.1, ((Number.le_iff 0.0 y).1 hy).2.1, h⟩

noncomputable def valueOf (limit : Budget → Option Float) (b : Budget) : Option EReal :=
  (limit b).map Number.value

theorem Unbroken.valueOf {limit : Budget → Option Float} (h : d.Unbroken limit n i) :
    d.Unbroken (valueOf limit) n i := by
  intro k b hk hb
  obtain ⟨x, hx⟩ := h k b hk hb
  exact ⟨Number.value x, congrArg (Option.map Number.value) hx⟩

theorem Kinship.amount_climb {limit : Budget → Option Float} (h : Kinship d)
    (hv : ∀ id i, d.get? id = some i → ∀ x, limit i.mandate.budget = some x → x ≥ 0.0)
    (hstep : ∀ i p : Identity, i.IsChildOf p →
      ∀ x y, limit i.mandate.budget = some x → limit p.mandate.budget = some y → ¬ x > y)
    (hi : d.get? id = some i) (ha : d.climb n i = some a) (hu : d.Unbroken limit n i) {x y : Float}
    (hx : limit i.mandate.budget = some x) (hy : limit a.mandate.budget = some y) : x ≤ y := by
  refine le_of_value_le (hv id i hi x hx) (hv a.id a (h.get?_climb hi ha) y hy) ?_
  have hx' : valueOf limit i.mandate.budget = some (Number.value x) :=
    congrArg (Option.map Number.value) hx
  have hy' : valueOf limit a.mandate.budget = some (Number.value y) :=
    congrArg (Option.map Number.value) hy
  refine h.limit_climb (fun j p hj hp hc v w hv' hw' => ?_) hi ha hu.valueOf hx' hy'
  obtain ⟨s, hs, rfl⟩ := Option.map_eq_some_iff.1 hv'
  obtain ⟨t, ht, rfl⟩ := Option.map_eq_some_iff.1 hw'
  exact value_le_of_not_gt (hv j.id j hj s hs) (hv p.id p hp t ht) (hstep j p hc s t hs ht)

theorem limits_along_lineage :
    (∀ stranger inner j r, AgentRequest.read stranger inner j = .passed r → r.budget.Valid) ∧
    ∀ (ids : Nat → String) (deeds : List Deed),
      (∀ r now, Deed.create r now ∈ deeds → r.budget.Valid) →
      ∀ (id : String) (i a : Identity) (n : Nat),
        (run ids deeds).get? id = some i → (run ids deeds).climb n i = some a →
        ((run ids deeds).Unbroken Budget.maxCalls n i → ∀ x y,
          i.mandate.budget.maxCalls = some x → a.mandate.budget.maxCalls = some y → x ≤ y) ∧
        ((run ids deeds).Unbroken Budget.maxCost n i → ∀ x y,
          i.mandate.budget.maxCost = some x → a.mandate.budget.maxCost = some y → x ≤ y) ∧
        ((run ids deeds).Unbroken Budget.ttlHours n i → ∀ x y,
          i.mandate.budget.ttlHours = some x → a.mandate.budget.ttlHours = some y → x ≤ y) := by
  refine ⟨fun _ _ _ _ => AgentRequest.valid_of_read, ?_⟩
  intro ids deeds hd id i a n hi ha
  have h := kinship_run ids deeds
  have hv := valid_run ids deeds hd
  refine ⟨fun hu x y hx hy => ?_, fun hu x y hx hy => ?_, fun hu x y hx hy => ?_⟩
  · exact h.limit_climb (fun _ _ _ _ hc => hc.budget.calls) hi ha hu hx hy
  · exact h.amount_climb (fun id i hi => (hv id i hi).cost) (fun _ _ hc => hc.budget.cost) hi ha hu
      hx hy
  · exact h.amount_climb (fun id i hi => (hv id i hi).ttl) (fun _ _ hc => hc.budget.ttl) hi ha hu
      hx hy

def rationed : List Deed :=
  [.create ⟨"root", "tenant", none, ["*"], ⟨some 10, some 2.0, none⟩⟩ (.once .epoch),
    .create ⟨"child", "tenant", some "agent-1", ["*"], ⟨none, some 0.5, none⟩⟩ (.once .epoch),
    .create ⟨"grandchild", "tenant", some "agent-2", [], ⟨some 100, some 0.25, none⟩⟩ (.once .epoch)]

theorem valid_rationed (r : AgentRequest) (now : Readings) (h : Deed.create r now ∈ rationed) :
    r.budget.Valid := by
  simp only [rationed, List.mem_cons, Deed.create.injEq, List.not_mem_nil, or_false] at h
  rcases h with ⟨rfl, -⟩ | ⟨rfl, -⟩ | ⟨rfl, -⟩
  all_goals
    refine ⟨fun x hx => ?_, fun x hx => ?_⟩
    · cases hx
      decide
    · cases hx

theorem limits_along_rationed :
    ∃ i a, (run agentId rationed).get? "agent-3" = some i ∧
      (run agentId rationed).climb 2 i = some a ∧ a.id = "agent-1" ∧
      (run agentId rationed).Unbroken Budget.maxCost 2 i ∧
      ∀ x y, i.mandate.budget.maxCost = some x → a.mandate.budget.maxCost = some y → x ≤ y := by
  refine ⟨_, _, rfl, rfl, rfl, ?_⟩
  have hu : (run agentId rationed).Unbroken Budget.maxCost 2
      ⟨"agent-3", "grandchild", "tenant",
        ⟨[], ⟨some 100, some 0.25, none⟩, 2, some "agent-1", some "agent-2"⟩, "active", none,
        .epoch⟩ := by
    intro k b hk hb
    match k, hk with
    | 0, _ => cases hb; exact ⟨_, rfl⟩
    | 1, _ => cases hb; exact ⟨_, rfl⟩
    | 2, _ => cases hb; exact ⟨_, rfl⟩
  exact ⟨hu, (limits_along_lineage.2 agentId rationed valid_rationed "agent-3" _ _ 2 rfl rfl).2.1 hu⟩

theorem limit_regrown :
    ∃ i a, (run agentId rationed).get? "agent-3" = some i ∧
      (run agentId rationed).climb 2 i = some a ∧
      ¬ ∀ x y, i.mandate.budget.maxCalls = some x → a.mandate.budget.maxCalls = some y →
        x ≤ y := by
  refine ⟨_, _, rfl, rfl, fun h => ?_⟩
  exact absurd (h 100 10 rfl rfl) (by decide)

end Directory

end Switchboard
