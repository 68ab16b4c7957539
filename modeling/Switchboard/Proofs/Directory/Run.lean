import Mathlib.Data.List.Induction
import Switchboard.AgentCall

namespace Switchboard

namespace Directory

inductive Deed where
  | create (r : AgentRequest) (now : Readings)
  | revoke (id : String)

def act (ids : Nat → String) (d : Directory) : Deed → Directory
  | .create r now => (d.createFrom ids r now).val.2
  | .revoke id => (d.revoke id).2

def runFrom (ids : Nat → String) (d : Directory) (deeds : List Deed) : Directory :=
  deeds.foldl (act ids) d

def run (ids : Nat → String) (deeds : List Deed) : Directory := runFrom ids empty deeds

variable {ids : Nat → String} {d d' : Directory} {r : AgentRequest} {now : Readings}

theorem run_concat (deeds : List Deed) (deed : Deed) :
    run ids (deeds ++ [deed]) = act ids (run ids deeds) deed := by
  simp [run, runFrom]

theorem run_invariant {P : Directory → Prop} (start : P empty)
    (step : ∀ d deed, P d → P (act ids d deed)) (deeds : List Deed) : P (run ids deeds) := by
  induction deeds using List.reverseRecOn with
  | nil => exact start
  | append_singleton deeds deed ih =>
      rw [run_concat]
      exact step _ deed ih

structure Fresh (ids : Nat → String) : Prop where
  injective : Function.Injective ids
  nonempty : ∀ n, ids n ≠ ""

theorem agentId_fresh : Fresh agentId where
  injective := by
    intro m n h
    exact Number.intText_inj ((String.append_right_inj "agent-").1 h)
  nonempty := by
    intro n h
    have hs := congrArg String.toList h
    simp [agentId] at hs

inductive Granted (d : Directory) (r : AgentRequest) : Mandate → Prop
  | root : r.parentId? = none → Granted d r (.ofRoot r.scopes r.budget)
  | child {id p} : r.parentId? = some id → d.get? id = some p → p.isActive = true →
      p.mandate.Approves r.scopes r.budget →
      Granted d r (p.mandate.delegate p.id r.scopes r.budget)

theorem granted_of_mandateFor {m : Mandate} (h : (d.mandateFor r).val = .ok m) : Granted d r m := by
  unfold mandateFor at h
  cases hp : r.parentId? with
  | none =>
      simp only [hp, Logged.val_pure, Except.ok.injEq] at h
      exact h ▸ .root hp
  | some id =>
      simp only [hp] at h
      cases hg : (d.get? id).filter Identity.isActive with
      | none => simp [hg] at h
      | some p =>
          obtain ⟨hg, ha⟩ := Option.filter_eq_some_iff.1 hg
          simp only [Option.filter_eq_some_iff.2 ⟨hg, ha⟩] at h
          cases hd : p.mandate.denial? r.scopes r.budget with
          | some denial => simp [hd] at h
          | none =>
              simp only [hd, Logged.val_pure, Except.ok.injEq] at h
              exact h ▸ .child hp hg ha ((Mandate.denial?_eq_none_iff _ _ _).1 hd)

theorem mandateFor_of_granted {m : Mandate} (h : Granted d r m) : (d.mandateFor r).val = .ok m := by
  unfold mandateFor
  cases h with
  | root hp => simp [hp]
  | child hp hg ha happ =>
      have hf := Option.filter_eq_some_iff.2 ⟨hg, ha⟩
      simp only [hp, hf, (Mandate.denial?_eq_none_iff _ _ _).2 happ, Logged.val_pure]

def newcomer (id : String) (r : AgentRequest) (m : Mandate) (expires : Option Instant)
    (created : Instant) : Identity :=
  ⟨id, r.name, r.tenant, m, Identity.active, expires, created⟩

inductive Creation (ids : Nat → String) (d : Directory) (r : AgentRequest) (now : Readings) :
    Except Fault Identity × Directory → Prop
  | refused {e} : (d.mandateFor r).val = .error e → Creation ids d r now (.error e, d)
  | dateless {m e} : Granted d r m → expiryFor now.since r.budget = .error e →
      Creation ids d r now (.error e, d)
  | taken {m expires} : Granted d r m → expiryFor now.since r.budget = .ok expires →
      ids (d.issued + 1) ∈ d.agents.ids →
      Creation ids d r now
        (.error (.identityExists (ids (d.issued + 1))), { d with issued := d.issued + 1 })
  | stored {m expires} : Granted d r m → expiryFor now.since r.budget = .ok expires →
      ids (d.issued + 1) ∉ d.agents.ids →
      Creation ids d r now
        (.ok (newcomer (ids (d.issued + 1)) r m expires now.stamp),
          ⟨d.agents.put (ids (d.issued + 1)) (newcomer (ids (d.issued + 1)) r m expires now.stamp),
            d.issued + 1⟩)

theorem createFrom_creation (ids : Nat → String) (d : Directory) (r : AgentRequest)
    (now : Readings) : Creation ids d r now (d.createFrom ids r now).val := by
  unfold createFrom
  simp only [Logged.val_bind]
  cases hm : (d.mandateFor r).val with
  | error e => exact .refused hm
  | ok m =>
      have hg := granted_of_mandateFor hm
      cases he : expiryFor now.since r.budget with
      | error e => exact .dateless hg he
      | ok expires =>
          by_cases hc : ids (d.issued + 1) ∈ d.agents.ids
          · have := (Roster.contains_iff d.agents _).2 hc
            simp only [store, this, if_true]
            exact .taken hg he hc
          · have : d.agents.contains (ids (d.issued + 1)) = false := by
              simpa [Roster.contains] using hc
            simp only [store, this]
            exact .stored hg he hc

theorem createFrom_of_granted {m : Mandate} {expires : Option Instant} (hm : Granted d r m)
    (he : expiryFor now.since r.budget = .ok expires) (hn : ids (d.issued + 1) ∉ d.agents.ids) :
    (d.createFrom ids r now).val =
      (.ok (newcomer (ids (d.issued + 1)) r m expires now.stamp),
        ⟨d.agents.put (ids (d.issued + 1)) (newcomer (ids (d.issued + 1)) r m expires now.stamp),
          d.issued + 1⟩) := by
  have hc : d.agents.contains (ids (d.issued + 1)) = false := by
    simpa [Roster.contains] using hn
  simp only [createFrom, Logged.val_bind, mandateFor_of_granted hm, he, store, hc]
  rfl

theorem get?_revoke (d : Directory) (id k : String) :
    (d.revoke id).2.get? k =
      (d.get? k).map (fun i => if k = id then { i with status := Identity.revoked } else i) := by
  unfold revoke setStatus
  cases hg : d.get? id with
  | none =>
      by_cases hk : k = id
      · subst hk
        simp [hg]
      · simp [hk]
  | some i =>
      simp only [get?, Roster.get?_put]
      by_cases hk : k = id
      · subst hk
        rw [get?] at hg
        simp [hg]
      · simp [hk]

theorem ids_revoke (d : Directory) (id : String) : (d.revoke id).2.agents.ids = d.agents.ids := by
  unfold revoke setStatus
  cases hg : d.get? id with
  | none => rfl
  | some i =>
      exact Roster.ids_put_of_mem _ _ (Roster.mem_ids_of_get? hg)

theorem agents_create (ids : Nat → String) (d : Directory) (r : AgentRequest) (now : Readings) :
    (act ids d (.create r now)).agents = d.agents ∨
      ∃ id m expires, Granted d r m ∧ id ∉ d.agents.ids ∧
        (act ids d (.create r now)).agents = d.agents.put id (newcomer id r m expires now.stamp) := by
  have hc := createFrom_creation ids d r now
  rw [act]
  generalize (d.createFrom ids r now).val = after at hc ⊢
  cases hc with
  | refused _ => exact Or.inl rfl
  | dateless _ _ => exact Or.inl rfl
  | taken _ _ _ => exact Or.inl rfl
  | stored hm _ hn => exact Or.inr ⟨_, _, _, hm, hn, rfl⟩

theorem ids_act (ids : Nat → String) (d : Directory) (deed : Deed) :
    (act ids d deed).agents.ids = d.agents.ids ∨
      ∃ id, id ∉ d.agents.ids ∧ (act ids d deed).agents.ids = d.agents.ids ++ [id] := by
  cases deed with
  | create r now =>
      rcases agents_create ids d r now with ha | ⟨id, m, expires, _, hn, ha⟩
      · exact Or.inl (congrArg Roster.ids ha)
      · rw [ha]
        exact Or.inr ⟨id, hn, Roster.ids_put_of_not_mem _ _ hn⟩
  | revoke id => exact Or.inl (ids_revoke d id)

def Numbered (ids : Nat → String) (d : Directory) : Prop :=
  ∀ id ∈ d.agents.ids, ∃ n ≤ d.issued, id = ids n

theorem Numbered.not_mem (hf : Fresh ids) (h : d.Numbered ids) :
    ids (d.issued + 1) ∉ d.agents.ids := by
  intro hm
  obtain ⟨n, hn, heq⟩ := h _ hm
  have hsame := hf.injective heq
  omega

theorem Numbered.congr {d' : Directory} (h : d.Numbered ids) (ha : d'.agents.ids = d.agents.ids)
    (hissued : d.issued ≤ d'.issued) : d'.Numbered ids := by
  intro id hm
  obtain ⟨n, hn, rfl⟩ := h id (ha ▸ hm)
  exact ⟨n, Nat.le_trans hn hissued, rfl⟩

theorem issued_revoke (d : Directory) (id : String) : (d.revoke id).2.issued = d.issued := by
  unfold revoke setStatus
  cases d.get? id <;> rfl

theorem numbered_act (d : Directory) (deed : Deed) (h : d.Numbered ids) :
    (act ids d deed).Numbered ids := by
  cases deed with
  | revoke id => exact h.congr (ids_revoke d id) (Nat.le_of_eq (issued_revoke d id).symm)
  | create r now =>
      have hc := createFrom_creation ids d r now
      rw [act]
      generalize (d.createFrom ids r now).val = after at hc ⊢
      cases hc with
      | refused _ => exact h
      | dateless _ _ => exact h
      | taken _ _ _ => exact h.congr rfl (Nat.le_succ _)
      | stored _ _ _ =>
          intro id hm
          rcases (Roster.mem_ids_put _ _ _ _).1 hm with rfl | hm
          · exact ⟨_, Nat.le_refl _, rfl⟩
          · obtain ⟨n, hn, rfl⟩ := h id hm
            exact ⟨n, Nat.le_succ_of_le hn, rfl⟩

theorem numbered_run (ids : Nat → String) (deeds : List Deed) : (run ids deeds).Numbered ids :=
  run_invariant (fun _ h => by cases h) numbered_act deeds

def Precedes (ids : Nat → String) (deeds : List Deed) (id k : String) : Prop :=
  ∃ before after, deeds = before ++ after ∧
    id ∈ (run ids before).agents.ids ∧ k ∉ (run ids before).agents.ids

theorem Precedes.concat {deeds : List Deed} {id k : String} (h : Precedes ids deeds id k)
    (deed : Deed) : Precedes ids (deeds ++ [deed]) id k := by
  obtain ⟨before, after, rfl, hi, hk⟩ := h
  exact ⟨before, after ++ [deed], List.append_assoc _ _ _, hi, hk⟩

theorem pair_sublist_concat {α : Type} {l : List α} {a b c : α} (h : [a, b].Sublist (l ++ [c])) :
    [a, b].Sublist l ∨ (b = c ∧ a ∈ l) := by
  obtain ⟨s, t, hst, hs, ht⟩ := List.sublist_append_iff.1 h
  rcases List.sublist_cons_iff.1 ht with ht | ⟨r, rfl, hr⟩
  · obtain rfl := List.sublist_nil.1 ht
    rw [List.append_nil] at hst
    exact Or.inl (hst ▸ hs)
  · obtain rfl := List.sublist_nil.1 hr
    have hab : [a] ++ [b] = s ++ [c] := hst
    obtain ⟨rfl, hc⟩ := List.append_singleton_inj.1 hab
    exact Or.inr ⟨hc, List.singleton_sublist.1 hs⟩

theorem precedes_of_sublist {deeds : List Deed} {id k : String}
    (h : [id, k].Sublist (run ids deeds).agents.ids) : Precedes ids deeds id k := by
  induction deeds using List.reverseRecOn with
  | nil => simp [run, runFrom, empty, Roster.empty, Roster.ids] at h
  | append_singleton deeds deed ih =>
      rw [run_concat] at h
      rcases ids_act ids (run ids deeds) deed with hs | ⟨new, hn, hs⟩
      · exact (ih (hs ▸ h)).concat deed
      · rw [hs] at h
        rcases pair_sublist_concat h with h | ⟨rfl, hm⟩
        · exact (ih h).concat deed
        · exact ⟨deeds, [deed], rfl, hm, hn⟩

def Keeps (d d' : Directory) : Prop :=
  ∀ id i, d.get? id = some i → ∃ s, d'.get? id = some { i with status := s }

theorem Keeps.refl (d : Directory) : Keeps d d := fun _ i h => ⟨i.status, h⟩

theorem Keeps.trans {d₁ d₂ d₃ : Directory} (h : Keeps d₁ d₂) (h' : Keeps d₂ d₃) :
    Keeps d₁ d₃ := by
  intro id i hi
  obtain ⟨s, hs⟩ := h id i hi
  obtain ⟨t, ht⟩ := h' id _ hs
  exact ⟨t, ht⟩

theorem ne_of_not_mem {id k : String} {i : Identity} (hn : id ∉ d.agents.ids)
    (hk : d.get? k = some i) : k ≠ id := by
  rintro rfl
  exact hn (Roster.mem_ids_of_get? hk)

theorem keeps_act (ids : Nat → String) (d : Directory) (deed : Deed) :
    Keeps d (act ids d deed) := by
  intro id i hi
  cases deed with
  | create r now =>
      refine ⟨i.status, ?_⟩
      rcases agents_create ids d r now with ha | ⟨k, m, expires, _, hn, ha⟩
      · rw [get?, ha]
        exact hi
      · rw [get?, ha, Roster.get?_put_of_ne _ _ (ne_of_not_mem hn hi)]
        exact hi
  | revoke k =>
      rw [act, get?_revoke, hi]
      by_cases hk : id = k
      · exact ⟨Identity.revoked, by simp [hk]⟩
      · exact ⟨i.status, by simp [hk]⟩

theorem keeps_runFrom (ids : Nat → String) (d : Directory) (deeds : List Deed) :
    Keeps d (runFrom ids d deeds) := by
  induction deeds generalizing d with
  | nil => exact .refl d
  | cons deed deeds ih => exact (keeps_act ids d deed).trans (ih _)

end Directory

end Switchboard
