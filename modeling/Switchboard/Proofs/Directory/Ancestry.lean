import Switchboard.Proofs.Directory.Lineage
import Switchboard.Proofs.Scope.Coverage

namespace Switchboard

namespace Directory

variable {d : Directory} {id : String} {i a : Identity} {n : Nat}

theorem Kinship.climb_induction {R : Identity → Identity → Prop} (h : Kinship d)
    (refl : ∀ i, d.get? i.id = some i → R i i) (step : ∀ i p a, i.IsChildOf p → R p a → R i a)
    (hi : d.get? id = some i) (ha : d.climb n i = some a) : R i a := by
  induction n generalizing id i with
  | zero => exact Option.some.inj ha ▸ refl i (h.named id i hi ▸ hi)
  | succ n ih =>
      obtain ⟨p, hp, ha⟩ := Option.bind_eq_some_iff.1 ha
      obtain ⟨hget, -, hc⟩ := h.parentOf_eq hi hp
      exact step i p a hc (ih hget ha)

theorem Kinship.get?_climb (h : Kinship d) (hi : d.get? id = some i) (ha : d.climb n i = some a) :
    d.get? a.id = some a :=
  h.climb_induction (R := fun _ a => d.get? a.id = some a) (fun _ hi => hi) (fun _ _ _ _ hp => hp)
    hi ha

theorem Kinship.isSubset_climb (h : Kinship d) (hi : d.get? id = some i)
    (ha : d.climb n i = some a) : Scope.isSubset a.mandate.scopes i.mandate.scopes = true :=
  h.climb_induction (R := fun i a => Scope.isSubset a.mandate.scopes i.mandate.scopes = true)
    (fun i _ => Scope.isSubset_refl i.mandate.scopes)
    (fun _ _ _ hc hp => Scope.isSubset_trans hp hc.scopes) hi ha

theorem coverage_along_lineage :
    (∀ s, Scope.covers s s = true) ∧
    (∀ a b c, Scope.covers a b = true → Scope.covers b c = true → Scope.covers a c = true) ∧
    (∀ ks, Scope.isSubset ks ks = true) ∧
    (∀ ks ls ms, Scope.isSubset ks ls = true → Scope.isSubset ls ms = true →
      Scope.isSubset ks ms = true) ∧
    ∀ (ids : Nat → String) (deeds : List Deed) (id : String) (i a : Identity) (n : Nat),
      (run ids deeds).get? id = some i → (run ids deeds).climb n i = some a →
      ∀ c ∈ i.mandate.scopes, ∃ p ∈ a.mandate.scopes, Scope.covers p c = true := by
  refine ⟨Scope.covers_self, fun _ _ _ => Scope.covers_trans, Scope.isSubset_refl,
    fun _ _ _ => Scope.isSubset_trans, ?_⟩
  intro ids deeds id i a n hi ha
  exact (Scope.isSubset_iff _ _).1 ((kinship_run ids deeds).isSubset_climb hi ha)

def nested : List Deed :=
  [.create ⟨"root", "tenant", none, ["a:*"], .unlimited⟩ (.once .epoch),
    .create ⟨"child", "tenant", some "agent-1", ["a:b:*", "a:*"], .unlimited⟩ (.once .epoch),
    .create ⟨"grandchild", "tenant", some "agent-2", ["a:b::", "a:b:*"], .unlimited⟩ (.once .epoch),
    .revoke "agent-1"]

theorem coverage_along_nested :
    Scope.covers "a:*" "a:b:*" = true ∧ Scope.covers "a:b:*" "a:b::" = true ∧
      Scope.covers "a:*" "a:b::" = true ∧ Scope.isSubset ["a:*"] ["a:b::", "a:b:*"] = true ∧
      ∃ i a, (run agentId nested).get? "agent-3" = some i ∧
        (run agentId nested).climb 2 i = some a ∧ a.id = "agent-1" ∧
        ∀ c ∈ i.mandate.scopes, ∃ p ∈ a.mandate.scopes, Scope.covers p c = true := by
  have h1 : Scope.covers "a:*" "a:b:*" = true := by decide
  have h2 : Scope.covers "a:b:*" "a:b::" = true := by decide
  have h3 : Scope.isSubset ["a:*"] ["a:b:*", "a:*"] = true := by decide
  have h4 : Scope.isSubset ["a:b:*", "a:*"] ["a:b::", "a:b:*"] = true := by decide
  refine ⟨h1, h2, coverage_along_lineage.2.1 _ _ _ h1 h2,
    coverage_along_lineage.2.2.2.1 _ _ _ h3 h4, _, _, rfl, rfl, rfl, ?_⟩
  exact coverage_along_lineage.2.2.2.2 agentId nested "agent-3" _ _ 2 rfl rfl

end Directory

end Switchboard
