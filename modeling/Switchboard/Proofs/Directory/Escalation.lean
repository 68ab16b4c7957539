import Switchboard.Proofs.Directory.Lineage
import Switchboard.Proofs.Scope.Exposure

namespace Switchboard.Directory

open Scope (Leaks permits)

def MayCall (d : Directory) (id backend tool : String) : Prop :=
  ∃ scopes, d.callerScopes (some id) = .ok scopes ∧ permits scopes backend tool = true

def Escalates (d : Directory) (parents : List String) (backend tool : String) : Prop :=
  ∃ id i p, d.get? id = some i ∧ d.parentOf i = some p ∧ p.mandate.scopes = parents ∧
    d.MayCall id backend tool ∧ permits (some parents) backend tool = false

theorem callerScopes_of_active {d : Directory} {id : String} {i : Identity}
    (hi : d.get? id = some i) (ha : i.isActive = true) :
    d.callerScopes (some id) = .ok (some i.mandate.scopes) := by
  simp only [callerScopes, hi, Option.filter_some, ha, if_true]

theorem permits_of_mayCall {d : Directory} {id backend tool : String} {i : Identity}
    (hi : d.get? id = some i) (h : d.MayCall id backend tool) :
    permits (some i.mandate.scopes) backend tool = true := by
  obtain ⟨scopes, hs, hp⟩ := h
  cases ha : i.isActive with
  | true =>
      rw [callerScopes_of_active hi ha, Except.ok.injEq] at hs
      exact hs ▸ hp
  | false => simp [callerScopes, hi, Option.filter_some, ha] at hs

theorem leaks_of_escalates {d : Directory} (hk : Kinship d) {parents : List String}
    {backend tool : String} (h : d.Escalates parents backend tool) :
    Leaks parents backend tool := by
  obtain ⟨id, i, p, hi, hp, rfl, hcall, hforbid⟩ := h
  have hc := (hk.parentOf_eq hi hp).2.2
  exact Scope.leaks_of_escalation hc.scopes (permits_of_mayCall hi hcall) hforbid

def rootRequest (scopes : List String) : AgentRequest := ⟨"parent", "tenant", none, scopes, .unlimited⟩

def childRequest (id : String) (scopes : List String) : AgentRequest :=
  ⟨"child", "tenant", some id, scopes, .unlimited⟩

theorem exists_delegation {ids : Nat → String} (hf : Fresh ids) {parents children : List String}
    (hs : Scope.isSubset parents children = true) :
    ∃ deeds i p, (run ids deeds).get? (ids 2) = some i ∧ i.isActive = true ∧
      (run ids deeds).parentOf i = some p ∧ i.mandate.scopes = children ∧
      p.mandate.scopes = parents := by
  have hne : ids 1 ≠ ids 2 := fun h => absurd (hf.injective h) (by decide)
  let now := Readings.once .epoch
  let p := newcomer (ids 1) (rootRequest parents) (.ofRoot parents .unlimited) none now.stamp
  let m := p.mandate.delegate (ids 1) children .unlimited
  let i := newcomer (ids 2) (childRequest (ids 1) children) m none now.stamp
  have h1 : act ids empty (.create (rootRequest parents) now) = ⟨Roster.empty.put (ids 1) p, 1⟩ := by
    have hroot : Granted empty (rootRequest parents) (.ofRoot parents .unlimited) := .root rfl
    rw [act, createFrom_of_granted hroot rfl (by simp [empty, Roster.empty, Roster.ids])]
    rfl
  have hp : (⟨Roster.empty.put (ids 1) p, 1⟩ : Directory).get? (ids 1) = some p :=
    Roster.get?_put_self _ _ _
  have hm : Granted ⟨Roster.empty.put (ids 1) p, 1⟩ (childRequest (ids 1) children) m := by
    refine .child ?_ hp rfl ⟨Nat.zero_lt_succ _, hs, rfl, rfl, rfl⟩
    simp [AgentRequest.parentId?, childRequest, Option.filter_some, hf.nonempty 1]
  have h2 : act ids ⟨Roster.empty.put (ids 1) p, 1⟩ (.create (childRequest (ids 1) children) now) =
      ⟨(Roster.empty.put (ids 1) p).put (ids 2) i, 2⟩ := by
    have hfresh : ids 2 ∉ (Roster.empty.put (ids 1) p).ids := by
      rw [Roster.mem_ids_put]
      rintro (h | h)
      · exact hne h.symm
      · simp [Roster.empty, Roster.ids] at h
    rw [act, createFrom_of_granted hm rfl hfresh]
  refine ⟨[.create (rootRequest parents) now, .create (childRequest (ids 1) children) now], i, p,
    ?_, rfl, ?_, rfl, rfl⟩
  · rw [run, runFrom, List.foldl_cons, h1, List.foldl_cons, h2]
    exact Roster.get?_put_self _ _ _
  · rw [run, runFrom, List.foldl_cons, h1, List.foldl_cons, h2]
    exact (Roster.get?_put_of_ne _ _ hne).trans hp

theorem delegation_escalates_iff {ids : Nat → String} (hf : Fresh ids) (parents : List String)
    (backend tool : String) :
    ((∃ children, Scope.isSubset parents children = true ∧
        permits (some children) backend tool = true ∧
        permits (some parents) backend tool = false) ↔ Leaks parents backend tool) ∧
    ((∃ deeds, (run ids deeds).Escalates parents backend tool) ↔ Leaks parents backend tool) ∧
    (':' ∉ backend.toList → ':' ∉ tool.toList → ¬ Leaks parents backend tool) := by
  refine ⟨Scope.exists_escalation_iff parents backend tool, ⟨?_, ?_⟩, ?_⟩
  · rintro ⟨deeds, h⟩
    exact leaks_of_escalates (kinship_run ids deeds) h
  · intro h
    obtain ⟨children, hs, hc, hp⟩ := (Scope.exists_escalation_iff _ _ _).2 h
    obtain ⟨deeds, i, p, hi, ha, hup, rfl, rfl⟩ := exists_delegation hf hs
    exact ⟨deeds, ids 2, i, p, hi, hup, rfl, ⟨_, callerScopes_of_active hi ha, hc⟩, hp⟩
  · rintro hb ht ⟨_, q, hq, _⟩
    exact Scope.not_cut_of_no_colon hb ht q hq

theorem builtin_wildcard_leaks : Leaks ["builtin:*"] "builtin:echo" "echo" := by
  refine ⟨by decide, "builtin", .inBackend (r := "echo") (by decide), by decide⟩

theorem builtin_wildcard_escalates :
    Fresh agentId ∧ ∃ deeds, (run agentId deeds).Escalates ["builtin:*"] "builtin:echo" "echo" :=
  ⟨agentId_fresh,
    (delegation_escalates_iff agentId_fresh ["builtin:*"] "builtin:echo" "echo").2.1.2
      builtin_wildcard_leaks⟩

theorem child_exceeds_parent :
    Scope.isSubset ["builtin:*"] ["builtin:echo"] = true ∧
      permits (some ["builtin:echo"]) "builtin:echo" "echo" = true ∧
      permits (some ["builtin:*"]) "builtin:echo" "echo" = false := by
  decide

end Switchboard.Directory
