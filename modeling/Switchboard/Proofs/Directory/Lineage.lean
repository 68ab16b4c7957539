import Switchboard.Proofs.Directory.Run

namespace Switchboard

structure Budget.Within (b parent : Budget) : Prop where
  calls : ∀ m n, b.maxCalls = some m → parent.maxCalls = some n → m ≤ n
  cost : ∀ x y, b.maxCost = some x → parent.maxCost = some y → ¬ x > y
  ttl : ∀ x y, b.ttlHours = some x → parent.ttlHours = some y → ¬ x > y

theorem Mandate.Approves.within {parent : Mandate} {scopes : List String} {b : Budget}
    (h : parent.Approves scopes b) : b.Within parent.budget where
  calls := by
    intro m n hm hn
    have hc := h.calls
    simp only [callsExceed, hm, hn, decide_eq_false_iff_not] at hc
    omega
  cost := by
    intro x y hx hy
    have hc := h.cost
    simpa only [amountExceeds, hx, hy, decide_eq_false_iff_not] using hc
  ttl := by
    intro x y hx hy
    have hc := h.ttl
    simpa only [amountExceeds, hx, hy, decide_eq_false_iff_not] using hc

namespace Identity

structure IsRoot (i : Identity) : Prop where
  depth : i.mandate.depth = 0
  parent : i.mandate.parent = none
  root : i.mandate.root = none

structure IsChildOf (i p : Identity) : Prop where
  parent : i.mandate.parent = some p.id
  depth : i.mandate.depth = p.mandate.depth + 1
  room : p.mandate.depth < Mandate.maxDepth
  scopes : Scope.isSubset p.mandate.scopes i.mandate.scopes = true
  budget : i.mandate.budget.Within p.mandate.budget
  root : i.mandate.root = some (p.mandate.root.getD p.id)

theorem IsRoot.congr {i j : Identity} (h : i.IsRoot) (hm : j.mandate = i.mandate) : j.IsRoot := by
  obtain ⟨hd, hp, hr⟩ := h
  constructor <;> rwa [hm]

theorem IsChildOf.congr {i j p q : Identity} (h : i.IsChildOf p) (hi : j.mandate = i.mandate)
    (hid : q.id = p.id) (hm : q.mandate = p.mandate) : j.IsChildOf q := by
  obtain ⟨hp, hd, hb, hs, hw, hr⟩ := h
  constructor <;> simpa only [hi, hid, hm]

end Identity

namespace Directory

def parentOf (d : Directory) (i : Identity) : Option Identity := i.mandate.parent.bind d.get?

def climb (d : Directory) : Nat → Identity → Option Identity
  | 0, i => some i
  | n + 1, i => (d.parentOf i).bind (d.climb n)

structure Kinship (d : Directory) : Prop where
  named : ∀ id i, d.get? id = some i → i.id = id
  rooted : ∀ id i, d.get? id = some i → i.mandate.root ≠ some ""
  kin : ∀ id i, d.get? id = some i → i.IsRoot ∨
    ∃ p, d.get? p.id = some p ∧ [p.id, id].Sublist d.agents.ids ∧ i.IsChildOf p

variable {ids : Nat → String} {d : Directory} {r : AgentRequest} {now : Instant}

theorem kinship_empty : Kinship empty := by
  constructor <;> intro id i h <;> simp [get?, empty] at h

theorem ne_empty_of_parentId? {id : String} (h : r.parentId? = some id) : id ≠ "" := by
  have := (Option.filter_eq_some_iff.1 h).2
  simpa using this

theorem kin_newcomer {m : Mandate} (h : Kinship d) (hm : Granted d r m) (id : String)
    (expires : Option Instant) (now : Instant) :
    (newcomer id r m expires now).mandate.root ≠ some "" ∧
      ((newcomer id r m expires now).IsRoot ∨
        ∃ p, d.get? p.id = some p ∧ (newcomer id r m expires now).IsChildOf p) := by
  cases hm with
  | root hp => exact ⟨by simp [newcomer, Mandate.ofRoot], Or.inl ⟨rfl, rfl, rfl⟩⟩
  | @child pid p hp hg ha happ =>
      have hn := h.named pid p hg
      have hroot : p.mandate.rootFrom p.id = p.mandate.root.getD p.id := by
        have hr := h.rooted pid p hg
        unfold Mandate.rootFrom
        cases hc : p.mandate.root with
        | none => rfl
        | some s =>
            rw [hc] at hr
            have hs : s ≠ "" := fun hs => hr (hs ▸ rfl)
            simp [hs]
      refine ⟨?_, Or.inr ⟨p, hn ▸ hg, rfl, rfl, happ.depth, happ.scopes, happ.within, ?_⟩⟩
      · simp only [newcomer, Mandate.delegate, hroot, ne_eq, Option.some.injEq]
        cases hc : p.mandate.root with
        | none => simpa [hn] using ne_empty_of_parentId? hp
        | some s =>
            intro hs
            simp only [Option.getD_some] at hs
            exact h.rooted pid p hg (hc.trans (congrArg some hs))
      · simp only [newcomer, Mandate.delegate, hroot]

theorem Kinship.congr {d' : Directory} (h : Kinship d) (ha : d'.agents = d.agents) :
    Kinship d' := by
  have hget : d'.get? = d.get? := by
    funext id
    rw [get?, ha]
    rfl
  constructor
  · rw [hget]
    exact h.named
  · rw [hget]
    exact h.rooted
  · rw [hget, ha]
    exact h.kin

theorem kinship_put {m : Mandate} {id : String} {expires : Option Instant} {n : Nat}
    (h : Kinship d) (hm : Granted d r m) (hn : id ∉ d.agents.ids) :
    Kinship ⟨d.agents.put id (newcomer id r m expires now), n⟩ := by
  have hnew := kin_newcomer h hm id expires now
  have hget : ∀ k i, (d.agents.put id (newcomer id r m expires now)).get? k = some i →
      (k = id ∧ i = newcomer id r m expires now) ∨ (k ≠ id ∧ d.get? k = some i) := by
    intro k i hk
    rw [Roster.get?_put] at hk
    split at hk
    · next he => exact Or.inl ⟨he, (Option.some.inj hk).symm⟩
    · next he => exact Or.inr ⟨he, hk⟩
  have hold : ∀ p, d.get? p.id = some p →
      (d.agents.put id (newcomer id r m expires now)).get? p.id = some p := by
    intro p hp
    rw [Roster.get?_put_of_ne _ _ (ne_of_not_mem hn hp)]
    exact hp
  constructor
  · intro k i hk
    rcases hget k i hk with ⟨rfl, rfl⟩ | ⟨_, hk⟩
    · rfl
    · exact h.named k i hk
  · intro k i hk
    rcases hget k i hk with ⟨rfl, rfl⟩ | ⟨_, hk⟩
    · exact hnew.1
    · exact h.rooted k i hk
  · intro k i hk
    rw [Roster.ids_put_of_not_mem _ _ hn]
    rcases hget k i hk with ⟨rfl, rfl⟩ | ⟨_, hk⟩
    · rcases hnew.2 with hr | ⟨p, hp, hc⟩
      · exact Or.inl hr
      · refine Or.inr ⟨p, hold p hp, ?_, hc⟩
        exact (List.singleton_sublist.2 (Roster.mem_ids_of_get? hp)).append (List.Sublist.refl [k])
    · rcases h.kin k i hk with hr | ⟨p, hp, hs, hc⟩
      · exact Or.inl hr
      · exact Or.inr ⟨p, hold p hp, hs.trans (List.sublist_append_left _ _), hc⟩

theorem get?_revoke_of_get? {id k : String} {i : Identity} (h : (d.revoke id).2.get? k = some i) :
    ∃ j, d.get? k = some j ∧ i.id = j.id ∧ i.mandate = j.mandate := by
  rw [get?_revoke, Option.map_eq_some_iff] at h
  obtain ⟨j, hj, rfl⟩ := h
  refine ⟨j, hj, ?_⟩
  split <;> exact ⟨rfl, rfl⟩

theorem kinship_revoke (id : String) (h : Kinship d) : Kinship (d.revoke id).2 := by
  constructor
  · intro k i hk
    obtain ⟨j, hj, hid, _⟩ := get?_revoke_of_get? hk
    exact hid.trans (h.named k j hj)
  · intro k i hk
    obtain ⟨j, hj, _, hm⟩ := get?_revoke_of_get? hk
    rw [hm]
    exact h.rooted k j hj
  · intro k i hk
    obtain ⟨j, hj, _, hm⟩ := get?_revoke_of_get? hk
    rcases h.kin k j hj with hr | ⟨p, hp, hs, hc⟩
    · exact Or.inl (hr.congr hm)
    · obtain ⟨s, hq⟩ := keeps_act (fun _ => id) d (.revoke id) p.id p hp
      refine Or.inr ⟨{ p with status := s }, hq, ?_, hc.congr hm rfl rfl⟩
      rw [ids_revoke]
      exact hs

theorem kinship_act (ids : Nat → String) (d : Directory) (deed : Deed) (h : Kinship d) :
    Kinship (act ids d deed) := by
  cases deed with
  | create r now =>
      rcases agents_create ids d r now with ha | ⟨id, m, expires, hm, hn, ha⟩
      · exact h.congr ha
      · exact (kinship_put (n := d.issued) h hm hn).congr ha
  | revoke id => exact kinship_revoke id h

theorem kinship_run (ids : Nat → String) (deeds : List Deed) : Kinship (run ids deeds) :=
  run_invariant kinship_empty (kinship_act ids) deeds

theorem Kinship.parentOf_eq (h : Kinship d) {id : String} {i p : Identity}
    (hi : d.get? id = some i) (hp : d.parentOf i = some p) :
    d.get? p.id = some p ∧ [p.id, id].Sublist d.agents.ids ∧ i.IsChildOf p := by
  unfold parentOf at hp
  rcases h.kin id i hi with hr | ⟨q, hq, hs, hc⟩
  · simp [hr.parent] at hp
  · rw [hc.parent, Option.bind_some, hq, Option.some.injEq] at hp
    exact hp ▸ ⟨hq, hs, hc⟩

theorem Kinship.climb_root (h : Kinship d) {n : Nat} {id : String} {i : Identity}
    (hi : d.get? id = some i) (hn : i.mandate.depth = n) :
    ∃ root, d.climb n i = some root ∧ d.get? root.id = some root ∧ root.IsRoot ∧
      i.mandate.root.getD i.id = root.id ∧ ∀ k, (d.climb k i).isSome = true ↔ k ≤ n := by
  induction n generalizing id i with
  | zero =>
      rcases h.kin id i hi with hr | ⟨p, _, _, hc⟩
      · refine ⟨i, rfl, by rw [h.named id i hi]; exact hi, hr, by simp [hr.root], ?_⟩
        intro k
        cases k with
        | zero => simp [climb]
        | succ k => simp [climb, parentOf, hr.parent]
      · have := hc.depth
        omega
  | succ n ih =>
      rcases h.kin id i hi with hr | ⟨p, hp, _, hc⟩
      · have := hr.depth
        omega
      · have hup : d.parentOf i = some p := by rw [parentOf, hc.parent, Option.bind_some, hp]
        have hpn : p.mandate.depth = n := by
          have := hc.depth
          omega
        obtain ⟨root, hclimb, hget, hroot, hid, hlen⟩ := ih hp hpn
        refine ⟨root, ?_, hget, hroot, ?_, ?_⟩
        · rw [climb, hup, Option.bind_some, hclimb]
        · rw [hc.root, Option.getD_some, hid]
        · intro k
          cases k with
          | zero => simp [climb]
          | succ k =>
              rw [climb, hup, Option.bind_some, hlen k]
              omega

structure Descends (d : Directory) (i root : Identity) : Prop where
  reached : d.climb i.mandate.depth i = some root
  isRoot : root.IsRoot
  steps : ∀ n, (d.climb n i).isSome = true ↔ n ≤ i.mandate.depth
  depth : i.mandate.depth ≤ 3

theorem Kinship.descends (h : Kinship d) {id : String} {i : Identity} (hi : d.get? id = some i) :
    ∃ root, d.Descends i root ∧ i.mandate.root.getD i.id = root.id := by
  obtain ⟨root, hclimb, _, hroot, hid, hlen⟩ := h.climb_root hi rfl
  refine ⟨root, ⟨hclimb, hroot, hlen, ?_⟩, hid⟩
  rcases h.kin id i hi with hr | ⟨p, _, _, hc⟩
  · rw [hr.depth]
    exact Nat.zero_le _
  · have hroom : p.mandate.depth < 3 := hc.room
    have := hc.depth
    omega

theorem lineage (ids : Nat → String) (deeds : List Deed) {id : String} {i : Identity}
    (hi : (run ids deeds).get? id = some i) :
    (∃ root, (run ids deeds).Descends i root ∧
      (i.IsRoot ∨ ∃ p, (run ids deeds).get? p.id = some p ∧ Precedes ids deeds p.id id ∧
        i.IsChildOf p ∧ i.mandate.root = some root.id)) ∧
    ∀ more, ∃ s, (runFrom ids (run ids deeds) more).get? id = some { i with status := s } := by
  have h := kinship_run ids deeds
  obtain ⟨root, hd, hid⟩ := h.descends hi
  refine ⟨⟨root, hd, ?_⟩, fun more => keeps_runFrom ids _ more id i hi⟩
  rcases h.kin id i hi with hr | ⟨p, hp, hs, hc⟩
  · exact Or.inl hr
  · refine Or.inr ⟨p, hp, precedes_of_sublist hs, hc, ?_⟩
    rw [hc.root, Option.some.injEq]
    rwa [hc.root, Option.getD_some] at hid

def family : List Deed :=
  [.create ⟨"root", "tenant", none, ["*"], .unlimited⟩ (.once .epoch),
    .create ⟨"child", "tenant", some "agent-1", ["a:*"], .unlimited⟩ (.once .epoch),
    .create ⟨"grandchild", "tenant", some "agent-2", ["a:b"], .unlimited⟩ (.once .epoch),
    .revoke "agent-1"]

theorem lineage_family :
    ∃ i, (run agentId family).get? "agent-3" = some i ∧ i.mandate.depth = 2 ∧
      ∃ root, (run agentId family).Descends i root ∧
        (i.IsRoot ∨ ∃ p, (run agentId family).get? p.id = some p ∧
          Precedes agentId family p.id "agent-3" ∧ i.IsChildOf p ∧
          i.mandate.root = some root.id) := by
  refine ⟨_, rfl, rfl, ?_⟩
  exact (@lineage agentId family "agent-3" _ rfl).1

end Directory

end Switchboard
