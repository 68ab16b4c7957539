import Switchboard.Catalogue.Builtin
import Switchboard.Proofs.Breaker.Wait
import Switchboard.Proofs.Dispatch.Effect

namespace Switchboard.Exchange

variable {x : Exchange} {m : Moment} {c : Call} {refusal : Refusal}

theorem refusal_of_resolve (h : x.resolve c = .error refusal) :
    ∃ kind message, kind ≠ .circuitOpen ∧ refusal = .of kind message := by
  rw [resolve] at h
  split at h
  · cases h
    exact ⟨_, _, by decide, rfl⟩
  · split at h
    · cases h
      exact ⟨_, _, by decide, rfl⟩
    · split at h
      · cases h
      · cases h
        exact ⟨_, _, by decide, rfl⟩

theorem refusal_of_settle {state : CircuitState} {o : Outcome}
    (h : (x.settle m c state o).val.1 = .error (.refused refusal)) :
    ∃ kind message, kind ≠ .circuitOpen ∧ refusal = .of kind message := by
  cases o with
  | returned output => cases h
  | returnedOther kind => cases h
  | rejected report =>
      cases h
      exact ⟨_, _, by decide, rfl⟩
  | raised kind message =>
      cases h
      exact ⟨_, _, by decide, rfl⟩

theorem refusal_of_refuseOpen (h : (x.refuseOpen m c).1 = .error (.refused refusal)) :
    ∃ wait, x.breaker.retryAfter c.backend m.now = .ok wait ∧ refusal =
      { Refusal.of .circuitOpen ("Circuit open for backend " ++ c.backend) with
        retryAfter := some (.real wait) } := by
  rw [refuseOpen] at h
  cases hr : x.breaker.retryAfter c.backend m.now with
  | error e =>
      rw [hr, Breaker.eq_of_retryAfter_error hr] at h
      cases h
  | ok wait =>
      rw [hr] at h
      cases h
      exact ⟨wait, rfl, rfl⟩

theorem refusal_of_dispatch (h : (x.dispatch m c).val.1 = .error (.refused refusal)) :
    (∃ kind message, kind ≠ .circuitOpen ∧ refusal = .of kind message) ∨
      (x.admitted m c).allowed = false ∧
        ∃ wait, x.breaker.retryAfter c.backend m.now = .ok wait ∧ refusal =
          { Refusal.of .circuitOpen ("Circuit open for backend " ++ c.backend) with
            retryAfter := some (.real wait) } := by
  cases hresolve : x.resolve c with
  | error found =>
      rw [dispatch_of_error hresolve] at h
      cases h
      exact .inl (refusal_of_resolve hresolve)
  | ok tool =>
      have he := resolve_eq_ok_iff.1 hresolve
      rw [← watched_fst] at h
      cases ha : (x.admitted m c).allowed with
      | true =>
          rw [(watched_of_admitted he ha).1] at h
          exact .inl (refusal_of_settle h)
      | false =>
          rw [(watched_of_refused he ha).1, checked_of_refused ha] at h
          exact .inr ⟨rfl, refusal_of_refuseOpen h⟩

theorem waits_of_circuitOpen (h : (x.dispatch m c).val.1 = .error (.refused refusal))
    (hk : refusal.kind = .circuitOpen) : ∃ wait, refusal.retryAfter = some (.real wait) ∧
      ((0.0 : Float) < wait ∨ wait = 0.0 ∧ x.breaker.OnBrink c.backend m.now) := by
  rcases refusal_of_dispatch h with ⟨kind, message, hkind, rfl⟩ | ⟨ha, wait, hwait, rfl⟩
  · exact absurd hk hkind
  · refine ⟨wait, rfl, ?_⟩
    rcases Breaker.waits_of_refused ha with ⟨told, htold, hpos⟩ | hboundless | hbrink
    · rw [hwait] at htold
      cases htold
      exact .inl hpos
    · rw [Breaker.retryAfter_of_boundless hboundless] at hwait
      cases hwait
    · rw [Breaker.retryAfter_of_onBrink hbrink] at hwait
      cases hwait
      exact .inr ⟨rfl, hbrink⟩

theorem told_wait_matches_admission (x : Exchange) (m : Moment) (id : String) :
    let asked := (x.breaker.admission id m.now).val
    let told := asked.2.retryAfter id m.now
    (asked.1.allowed = false ↔ (∃ wait, told = .ok wait ∧ (0.0 : Float) < wait) ∨
      x.breaker.Boundless id m.now ∨ x.breaker.OnBrink id m.now) ∧
    (told = .error (.overflow .operand) ↔ x.breaker.Boundless id m.now) ∧
    (x.breaker.retryAfter id m.now = .ok 0.0 →
      (asked.1.allowed = true ↔ ¬ x.breaker.OnBrink id m.now)) ∧
    (∀ c ms, x.breaker.circuits.get? id = some c → Number.ofInt? c.limits.resetMs = some ms →
      c.limits.resetMs < 2 ^ 53 → Number.IsNumber (c.elapsed m.now) →
      x.breaker.OnBrink id m.now →
        Number.value (c.elapsed m.now) = Number.value (ms / 1000.0)) ∧
    ∀ tool payload scopes tick refusal,
      (x.dispatch m ⟨id, tool, payload, scopes, tick⟩).val.1 = .error (.refused refusal) →
      refusal.kind = .circuitOpen → ∃ wait, refusal.retryAfter = some (.real wait) ∧
        ((0.0 : Float) < wait ∨ wait = 0.0 ∧ x.breaker.OnBrink id m.now) := by
  refine ⟨Breaker.refused_iff, Breaker.retryAfter_eq_overflow_iff, ?_, ?_, ?_⟩
  · intro hnone
    rw [← Breaker.refused_iff_of_nought hnone, Bool.not_eq_false]
  · intro c ms hc hms hreset helapsed hbrink
    exact (Breaker.brink_of_tracked hbrink hc hms).eq_quotient hms hreset helapsed
  · intro tool payload scopes tick refusal h hk
    exact waits_of_circuitOpen h hk

def resting : Exchange :=
  { start ⟨1, 1001, Nat.one_pos⟩ (.start .traces none) with
    registry := (Registry.empty.register Builtin.faultBackend).val.2
    breaker := .run ⟨1, 1001, Nat.one_pos⟩ [⟨Builtin.faultId, .fail 0.0⟩] }

theorem refused_without_wait :
    let asked := (resting.breaker.admission Builtin.faultId 1.001).val
    asked.1.allowed = false ∧ asked.2.retryAfter Builtin.faultId 1.001 = .ok 0.0 ∧
      (resting.dispatch ⟨1.001, .epoch⟩
        ⟨Builtin.faultId, "fault_call", .obj [], none, 0.0⟩).val.1 =
        .error (.refused ⟨.circuitOpen, "Circuit open for backend builtin:fault", 503,
          some (.real 0.0)⟩) := by
  exact ⟨by decide +kernel, rfl, rfl⟩

end Switchboard.Exchange
