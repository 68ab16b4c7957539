import Switchboard.Catalogue.Builtin
import Switchboard.Proofs.Directory.Revocation
import Switchboard.Proofs.Gateway.Run

namespace Switchboard

namespace Gateway

variable {ids : Nat → String} {id : String}

theorem directory_run_start (ids : Nat → String) (limits : CircuitLimits) (plan : ProbePlan)
    (bound : Bool) (capacity : Option Nat) (deeds : List Deed) :
    (run ids (start limits plan bound capacity) deeds).directory =
      Directory.run ids (deeds.filterMap Deed.agents?) :=
  directory_run ids _ deeds

theorem revoked_run {g : Gateway} {i : Identity} (hi : g.directory.get? id = some i)
    (deeds : List Deed) :
    (run ids (act ids g (.agents (.revoke id))) deeds).directory.get? id =
      some { i with status := Identity.revoked } := by
  rw [directory_run]
  apply Directory.revoked_runFrom
  · change (g.directory.revoke id).2.get? id = _
    rw [Directory.get?_revoke, hi, Option.map_some, if_pos rfl]
  · rfl

theorem revocation_is_final (ids : Nat → String) (hids : ∀ n, ids n ≠ "") (limits : CircuitLimits)
    (plan : ProbePlan) (bound : Bool) (capacity : Option Nat) :
    let after := run ids (start limits plan bound capacity)
    (∀ deeds tenant, (after deeds).directory.list tenant (some Identity.active) =
      (Directory.unrevoked (Directory.history ids (deeds.filterMap Deed.agents?))).filter
        (fun i => i.tenant = tenant)) ∧
    ∀ past later id, ((after past).directory.revoke id).1 = true →
      let g := after (past ++ .agents (.revoke id) :: later)
      (∃ i, Directory.CreatedAs ids (past.filterMap Deed.agents?) i ∧ i.id = id ∧
        g.directory.get? id = some { i with status := Identity.revoked }) ∧
      (∀ m c tick, c.agent = some id →
        g.call m c tick = pure (.error (.refused (.of .notFound ("Agent not found: " ++ id))), g)) ∧
      ∀ r now, r.parent = some id → g.directory.createFrom ids r now =
        pure (.error (.refused (.of .notFound ("Parent agent not found: " ++ id))), g.directory) := by
  intro after
  constructor
  · intro deeds tenant
    rw [directory_run_start]
    exact Directory.list_run ids _ tenant
  · intro past later id hr g
    obtain ⟨i, hi⟩ := Option.isSome_iff_exists.1 (Directory.isSome_get?_of_revoke hr)
    obtain ⟨now, j, n, s, hj, hid, hn, hij⟩ := Directory.createdAt_of_get?
      (directory_run_start ids limits plan bound capacity past ▸ hi)
    have hg : g.directory.get? id = some { j with status := Identity.revoked } := by
      have hrun : g = run ids (act ids (after past) (.agents (.revoke id))) later :=
        run_append _ past _
      rw [hrun, revoked_run hi, hij]
    have hf : (g.directory.get? id).filter Identity.isActive = none := by
      rw [hg]
      rfl
    refine ⟨⟨j, ⟨now, hj⟩, hid, hg⟩, ?_, ?_⟩
    · intro m c tick hc
      exact call_of_error (hc ▸ Directory.callerScopes_of_inactive hf) m tick
    · intro r now hp
      exact Directory.createFrom_of_inactive hp (hn ▸ hids n) hf now

def hired : List Deed :=
  [.agents (.create ⟨"root", "tenant", none, ["builtin:*"], .unlimited⟩ (.once .epoch)),
    .agents (.create ⟨"child", "tenant", some "agent-1", ["builtin:echo"], .unlimited⟩ (.once .epoch)),
    .call ⟨0.0, .epoch⟩ ⟨"builtin:echo", "echo", [], some "agent-1"⟩ 0.0]

def retired : List Deed :=
  hired ++ .agents (.revoke "agent-1") ::
    [.agents (.create ⟨"late", "tenant", some "agent-1", [], .unlimited⟩ (.once .epoch)),
      .agents (.create ⟨"new", "tenant", none, [], .unlimited⟩ (.once .epoch)),
      .agents (.revoke "agent-1")]

theorem revocation_is_final_for_retired :
    (∀ n, Directory.agentId n ≠ "") ∧
    let after := run Directory.agentId (start .standard .standard true none)
    let g := after retired
    ((after hired).directory.revoke "agent-1").1 = true ∧
    (g.directory.list "tenant" (some Identity.active)).map Identity.id = ["agent-2", "agent-3"] ∧
    (∃ i, Directory.CreatedAs Directory.agentId (hired.filterMap Deed.agents?) i ∧
      i.id = "agent-1" ∧
      g.directory.get? "agent-1" = some { i with status := Identity.revoked }) ∧
    (∀ m c tick, c.agent = some "agent-1" →
      g.call m c tick = pure (.error (.refused (.of .notFound "Agent not found: agent-1")), g)) ∧
    ∀ r now, r.parent = some "agent-1" → g.directory.createFrom Directory.agentId r now =
      pure (.error (.refused (.of .notFound "Parent agent not found: agent-1")), g.directory) := by
  have hids := Directory.agentId_fresh.nonempty
  have hf := revocation_is_final Directory.agentId hids .standard .standard true none
  have hr : ((run Directory.agentId (start .standard .standard true none) hired).directory.revoke
      "agent-1").1 = true := rfl
  exact ⟨hids, hr, rfl, hf.2 hired _ "agent-1" hr⟩

end Gateway

end Switchboard
