import Switchboard.Proofs.Directory.Lineage
import Switchboard.Proofs.Directory.Origin
import Switchboard.Proofs.History

namespace Switchboard

namespace Directory

def Deed.revokes (id : String) : Deed → Bool
  | .revoke k => k = id
  | _ => false

def created? (ids : Nat → String) (d : Directory) : Deed → Option Identity
  | .create r now => (d.createFrom ids r now).val.1.toOption
  | .revoke _ => none

def historyFrom (ids : Nat → String) (d : Directory) : List Deed → List (Deed × Option Identity)
  | [] => []
  | deed :: deeds => (deed, created? ids d deed) :: historyFrom ids (act ids d deed) deeds

def history (ids : Nat → String) (deeds : List Deed) : List (Deed × Option Identity) :=
  historyFrom ids empty deeds

def unrevoked (h : List (Deed × Option Identity)) : List Identity :=
  lasting Prod.snd (fun i e => e.1.revokes i.id) h

variable {ids : Nat → String} {d : Directory} {id : String} {i : Identity}

theorem historyFrom_concat (d : Directory) (deeds : List Deed) (deed : Deed) :
    historyFrom ids d (deeds ++ [deed]) =
      historyFrom ids d deeds ++ [(deed, created? ids (runFrom ids d deeds) deed)] := by
  induction deeds generalizing d with
  | nil => rfl
  | cons first deeds ih => exact congrArg (_ :: ·) (ih (act ids d first))

theorem unrevoked_concat (deeds : List Deed) (deed : Deed) :
    unrevoked (history ids (deeds ++ [deed])) =
      (unrevoked (history ids deeds)).filter (fun i => !deed.revokes i.id) ++
        (created? ids (run ids deeds) deed).toList := by
  rw [history, historyFrom_concat]
  exact lasting_concat _ _ _ _

theorem agents_created (ids : Nat → String) (d : Directory) (r : AgentRequest) (now : Readings) :
    (created? ids d (.create r now) = none ∧ (act ids d (.create r now)).agents = d.agents) ∨
      ∃ i n, created? ids d (.create r now) = some i ∧ i.isActive = true ∧ i.id = ids n ∧
        i.id ∉ d.agents.ids ∧ (act ids d (.create r now)).agents = d.agents.put i.id i := by
  have hc := createFrom_creation ids d r now
  rw [act, created?]
  generalize (d.createFrom ids r now).val = after at hc ⊢
  cases hc with
  | refused _ => exact .inl ⟨rfl, rfl⟩
  | dateless _ _ => exact .inl ⟨rfl, rfl⟩
  | taken _ _ _ => exact .inl ⟨rfl, rfl⟩
  | stored _ _ hn => exact .inr ⟨_, _, rfl, rfl, rfl, hn, rfl⟩

theorem get?_of_agents_eq {d' : Directory} (h : d'.agents = d.agents) (id : String) :
    d'.get? id = d.get? id := by
  rw [get?, h]
  rfl

theorem revoked_act (hi : d.get? id = some i) (hs : i.status = Identity.revoked) (deed : Deed) :
    (act ids d deed).get? id = some i := by
  cases deed with
  | create r now =>
      rcases agents_created ids d r now with ⟨-, ha⟩ | ⟨j, n, -, -, -, hn, ha⟩
      · rw [get?_of_agents_eq ha, hi]
      · rw [get?, ha, Roster.get?_put_of_ne _ _ (ne_of_not_mem hn hi)]
        exact hi
  | revoke k =>
      rw [act, get?_revoke, hi, Option.map_some, ← hs]
      split <;> rfl

theorem revoked_runFrom (hi : d.get? id = some i) (hs : i.status = Identity.revoked)
    (deeds : List Deed) : (runFrom ids d deeds).get? id = some i := by
  induction deeds generalizing d with
  | nil => exact hi
  | cons deed deeds ih => exact ih (revoked_act hi hs deed)

def revokeIn (id : String) (i : Identity) : Identity :=
  if i.id = id then { i with status := Identity.revoked } else i

theorem values_revoke (hn : ∀ id i, d.get? id = some i → i.id = id) (id : String) :
    (d.revoke id).2.agents.values = d.agents.values.map (revokeIn id) := by
  have hid (e : String × Identity) (he : e ∈ d.agents.entries) : d.get? e.2.id = some e.2 := by
    have hg := (Roster.get?_eq_some_iff d.agents e.1 e.2).2 he
    exact (hn e.1 e.2 hg).symm ▸ hg
  unfold revoke setStatus
  cases hg : d.get? id with
  | none =>
      rw [Roster.values, List.map_map]
      apply List.map_congr_left
      intro e he
      have hne : e.2.id ≠ id := by
        rintro rfl
        rw [hid e he] at hg
        cases hg
      exact (if_neg hne).symm
  | some i =>
      change (d.agents.put id _).values = _
      rw [Roster.values_put_of_mem _ _ (Roster.mem_ids_of_get? hg), Roster.values, List.map_map]
      apply List.map_congr_left
      intro e he
      have hk : e.2.id = e.1 := hn _ _ ((Roster.get?_eq_some_iff d.agents e.1 e.2).2 he)
      rw [Function.comp_apply, revokeIn]
      split
      · next h =>
          have hi := hid e he
          rw [hk, h, hg, Option.some.injEq] at hi
          rw [if_pos (hk.trans h), hi]
      · next h => exact (if_neg (hk ▸ h)).symm

theorem isActive_revokeIn (id : String) (i : Identity) :
    (revokeIn id i).isActive = (i.isActive && !decide (i.id = id)) := by
  unfold revokeIn
  split
  · next h => simp [h, Identity.isActive, Identity.revoked, Identity.active]
  · next h => simp [h]

theorem filter_isActive_revokeIn (is : List Identity) (id : String) :
    (is.map (revokeIn id)).filter Identity.isActive =
      (is.filter Identity.isActive).filter (fun i => !decide (i.id = id)) := by
  induction is with
  | nil => rfl
  | cons i is ih =>
      rw [List.map_cons, List.filter_cons, isActive_revokeIn, ih, List.filter_cons]
      cases ha : i.isActive with
      | false => rfl
      | true =>
          by_cases hid : i.id = id
          · simp [hid]
          · simp [hid, revokeIn]

theorem active_run (ids : Nat → String) (deeds : List Deed) :
    (run ids deeds).agents.values.filter Identity.isActive = unrevoked (history ids deeds) := by
  induction deeds using List.reverseRecOn with
  | nil => rfl
  | append_singleton deeds deed ih =>
      rw [run_concat, unrevoked_concat, ← ih]
      cases deed with
      | create r now =>
          have hf (is : List Identity) :
              is.filter (fun i => !(Deed.create r now).revokes i.id) = is :=
            List.filter_eq_self.2 fun _ _ => rfl
          rw [hf]
          rcases agents_created ids (run ids deeds) r now with ⟨hc, ha⟩ | ⟨i, n, hc, hi, -, hn, ha⟩
          · rw [hc, ha]
            exact (List.append_nil _).symm
          · rw [hc, ha, Roster.values_put_of_not_mem _ _ hn, List.filter_append,
              List.filter_cons_of_pos hi]
            rfl
      | revoke id =>
          have hd : (fun i : Identity => !(Deed.revoke id).revokes i.id) =
              fun i => !decide (i.id = id) := by
            funext i
            simp [Deed.revokes, eq_comm]
          rw [act, values_revoke (kinship_run ids deeds).named, filter_isActive_revokeIn, hd]
          exact (List.append_nil _).symm

theorem list_run (ids : Nat → String) (deeds : List Deed) (tenant : String) :
    (run ids deeds).list tenant (some Identity.active) =
      (unrevoked (history ids deeds)).filter (fun i => i.tenant = tenant) := by
  rw [← active_run, list, List.filter_filter]
  rfl

theorem isSome_get?_of_revoke (h : (d.revoke id).1 = true) : (d.get? id).isSome = true := by
  unfold revoke setStatus at h
  cases hg : d.get? id with
  | none => simp [hg] at h
  | some i => rfl

theorem createFrom_of_inactive {r : AgentRequest} (hp : r.parent = some id) (hne : id ≠ "")
    (hi : (d.get? id).filter Identity.isActive = none) (now : Readings) :
    d.createFrom ids r now =
      pure (.error (.refused (.of .notFound ("Parent agent not found: " ++ id))), d) := by
  have hid : r.parentId? = some id := by simp [AgentRequest.parentId?, hp, Option.filter, hne]
  unfold createFrom mandateFor
  simp only [hid, hi]
  rfl

theorem callerScopes_of_inactive (hi : (d.get? id).filter Identity.isActive = none) :
    d.callerScopes (some id) = .error (.of .notFound ("Agent not found: " ++ id)) := by
  simp only [callerScopes, hi]

end Directory

end Switchboard
