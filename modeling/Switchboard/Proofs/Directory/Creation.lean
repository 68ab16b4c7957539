import Switchboard.Proofs.Directory.Run

namespace Switchboard

namespace Directory

structure Spare (ids : Nat → String) (d : Directory) (id : String) : Prop where
  unused : id ∉ d.agents.ids
  ahead : ∃ n, d.issued < n ∧ ids n = id

inductive Declined (d : Directory) (r : AgentRequest) : Fault → Prop
  | orphaned {id} : r.parentId? = some id → (∀ p, d.get? id = some p → p.isActive = false) →
      Declined d r (.refused (.of .notFound ("Parent agent not found: " ++ id)))
  | denied {id p denial} : r.parentId? = some id → d.get? id = some p → p.isActive = true →
      p.mandate.denial? r.scopes r.budget = some denial →
      Declined d r (.refused (.of .delegationDenied ("Delegation denied: " ++ denial.reason)))

inductive Thwarted (ids : Nat → String) (d : Directory) (r : AgentRequest) (now : Readings) :
    Fault → Prop
  | declined {e} : d.Declined r e → Thwarted ids d r now e
  | dateless {m e} : Granted d r m → expiryFor now.since r.budget = .error e → Thwarted ids d r now e
  | taken {m expires} : Granted d r m → expiryFor now.since r.budget = .ok expires →
      ids (d.issued + 1) ∈ d.agents.ids →
      Thwarted ids d r now (.identityExists (ids (d.issued + 1)))

variable {ids : Nat → String} {d d' : Directory} {r : AgentRequest} {now : Readings} {e : Fault}

theorem declined_of_mandateFor (h : (d.mandateFor r).val = .error e) : d.Declined r e := by
  unfold mandateFor at h
  cases hp : r.parentId? with
  | none => simp [hp] at h
  | some id =>
      simp only [hp] at h
      cases hg : (d.get? id).filter Identity.isActive with
      | none =>
          simp only [hg, Logged.val_pure, Except.error.injEq] at h
          subst h
          refine .orphaned hp fun p hget => ?_
          rw [hget, Option.filter_eq_none_iff] at hg
          exact Bool.eq_false_iff.2 (hg p rfl)
      | some p =>
          obtain ⟨hget, hactive⟩ := Option.filter_eq_some_iff.1 hg
          simp only [hg] at h
          cases hd : p.mandate.denial? r.scopes r.budget with
          | none => simp [hd] at h
          | some denial =>
              simp only [hd, Except.error.injEq] at h
              subst h
              exact .denied hp hget hactive hd

theorem mandateFor_of_declined (h : d.Declined r e) : (d.mandateFor r).val = .error e := by
  unfold mandateFor
  cases h with
  | @orphaned id hp hinactive =>
      have hnone : (d.get? id).filter Identity.isActive = none :=
        Option.filter_eq_none_iff.2 fun p hget => by simp [hinactive p hget]
      simp only [hp, hnone, Logged.val_pure]
  | denied hp hget hactive hd =>
      simp only [hp, Option.filter_eq_some_iff.2 ⟨hget, hactive⟩, hd]

theorem createFrom_of_thwarted (h : d.Thwarted ids r now e) :
    (d.createFrom ids r now).val.1 = .error e := by
  unfold createFrom
  cases h with
  | declined hd => simp only [Logged.val_bind, mandateFor_of_declined hd, Logged.val_pure]
  | dateless hm he => simp only [Logged.val_bind, mandateFor_of_granted hm, he, Logged.val_pure]
  | taken hm he hc =>
      have hc := (Roster.contains_iff d.agents _).2 hc
      simp only [Logged.val_bind, mandateFor_of_granted hm, he, store, hc, if_true, Logged.val_pure]

theorem thwarted_of_createFrom (h : (d.createFrom ids r now).val.1 = .error e) :
    d.Thwarted ids r now e := by
  have hc := createFrom_creation ids d r now
  generalize (d.createFrom ids r now).val = after at hc h
  cases hc with
  | refused hm =>
      cases h
      exact .declined (declined_of_mandateFor hm)
  | dateless hm he =>
      cases h
      exact .dateless hm he
  | taken hm he hmem =>
      cases h
      exact .taken hm he hmem
  | stored _ _ _ => cases h

theorem spare_draw_iff (hagents : d'.agents = d.agents) (hissued : d'.issued = d.issued + 1)
    (hused : ids (d.issued + 1) ∈ d.agents.ids) (id : String) :
    d'.Spare ids id ↔ d.Spare ids id := by
  constructor
  · rintro ⟨hunused, n, hn, rfl⟩
    exact ⟨hagents ▸ hunused, n, by omega, rfl⟩
  · rintro ⟨hunused, n, hn, rfl⟩
    have hne : n ≠ d.issued + 1 := by
      rintro rfl
      exact hunused hused
    exact ⟨hagents ▸ hunused, n, by omega, rfl⟩

theorem spare_issue_iff (hids : d'.agents.ids = d.agents.ids ++ [ids (d.issued + 1)])
    (hissued : d'.issued = d.issued + 1) (id : String) :
    d'.Spare ids id ↔ d.Spare ids id ∧ id ≠ ids (d.issued + 1) := by
  constructor
  · rintro ⟨hunused, n, hn, rfl⟩
    rw [hids, List.mem_append, List.mem_singleton, not_or] at hunused
    exact ⟨⟨hunused.1, n, by omega, rfl⟩, hunused.2⟩
  · rintro ⟨⟨hunused, n, hn, rfl⟩, hne⟩
    have hlater : n ≠ d.issued + 1 := by
      rintro rfl
      exact hne rfl
    refine ⟨?_, n, by omega, rfl⟩
    rw [hids, List.mem_append, List.mem_singleton, not_or]
    exact ⟨hunused, hne⟩

theorem unchanged_of_thwarted (h : (d.createFrom ids r now).val.1 = .error e) :
    (d.createFrom ids r now).val.2 = d ∨
      e = .identityExists (ids (d.issued + 1)) ∧ ids (d.issued + 1) ∈ d.agents.ids ∧
        (d.createFrom ids r now).val.2 = { d with issued := d.issued + 1 } := by
  have hc := createFrom_creation ids d r now
  generalize (d.createFrom ids r now).val = after at hc h ⊢
  cases hc with
  | refused _ => exact .inl rfl
  | dateless _ _ => exact .inl rfl
  | taken _ _ hmem =>
      cases h
      exact .inr ⟨rfl, hmem, rfl⟩
  | stored _ _ _ => cases h

theorem stored_of_createFrom {i : Identity} (h : (d.createFrom ids r now).val.1 = .ok i) :
    i.id = ids (d.issued + 1) ∧ i.id ∉ d.agents.ids ∧ i.isActive = true ∧
      (d.createFrom ids r now).val.2 = ⟨d.agents.put i.id i, d.issued + 1⟩ := by
  have hc := createFrom_creation ids d r now
  generalize (d.createFrom ids r now).val = after at hc h ⊢
  cases hc with
  | refused _ => cases h
  | dateless _ _ => cases h
  | taken _ _ _ => cases h
  | stored hm he hn =>
      cases h
      exact ⟨rfl, hn, decide_eq_true rfl, rfl⟩

theorem creation_is_atomic (ids : Nat → String) (d : Directory) (r : AgentRequest)
    (now : Readings) :
    let after := (d.createFrom ids r now).val
    (∀ e, after.1 = .error e ↔ d.Thwarted ids r now e) ∧
    (∀ e, after.1 = .error e →
      after.2.agents = d.agents ∧ (∀ id, after.2.Spare ids id ↔ d.Spare ids id) ∧
      (after.2 = d ∨
        e = .identityExists (ids (d.issued + 1)) ∧ ids (d.issued + 1) ∈ d.agents.ids)) ∧
    ∀ i, after.1 = .ok i →
      d.Spare ids i.id ∧ (∀ id, after.2.Spare ids id ↔ d.Spare ids id ∧ id ≠ i.id) ∧
      after.2.agents.entries = d.agents.entries ++ [(i.id, i)] ∧ i.isActive = true ∧
      after.2.get? i.id = some i ∧ ∀ id j, d.get? id = some j → after.2.get? id = some j := by
  intro after
  refine ⟨fun e => ⟨thwarted_of_createFrom, createFrom_of_thwarted⟩, ?_, ?_⟩
  · intro e he
    rcases unchanged_of_thwarted he with hsame | ⟨htaken, hused, hdrawn⟩
    · rw [show after.2 = d from hsame]
      exact ⟨rfl, fun _ => Iff.rfl, .inl rfl⟩
    · rw [show after.2 = _ from hdrawn]
      exact ⟨rfl, spare_draw_iff rfl rfl hused, .inr ⟨htaken, hused⟩⟩
  · intro i hi
    obtain ⟨hid, hnew, hactive, hstored⟩ := stored_of_createFrom hi
    rw [show after.2 = _ from hstored]
    have hids := Roster.ids_put_of_not_mem d.agents i hnew
    refine ⟨⟨hnew, d.issued + 1, Nat.lt_succ_self _, hid.symm⟩, ?_,
      Roster.entries_put_of_not_mem _ _ hnew, hactive, Roster.get?_put_self _ _ _, ?_⟩
    · intro id
      rw [hid] at hids ⊢
      exact spare_issue_iff hids rfl id
    · intro id j hj
      exact (Roster.get?_put_of_ne _ _ (ne_of_not_mem hnew hj)).trans hj

end Directory

end Switchboard
