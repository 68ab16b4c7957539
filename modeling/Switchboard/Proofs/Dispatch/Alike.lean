import Switchboard.Proofs.Breaker.Alike
import Switchboard.Proofs.Dispatch.Passage
import Switchboard.Probe.Verdict

namespace Switchboard.Exchange

structure Alike (now : Float) (x x' : Exchange) : Prop where
  registry : x.registry = x'.registry
  breaker : x.breaker.Alike now x'.breaker
  sightings : x.sightings = x'.sightings
  ledger : x.ledger = x'.ledger

namespace Alike

variable {now later : Float} {m : Moment} {x x' x'' : Exchange}

theorem refl (now : Float) (x : Exchange) : Alike now x x := ⟨rfl, .refl now x.breaker, rfl, rfl⟩

theorem trans (h : Alike now x x') (h' : Alike now x' x'') : Alike now x x'' :=
  ⟨h.registry.trans h'.registry, h.breaker.trans h'.breaker, h.sightings.trans h'.sightings,
    h.ledger.trans h'.ledger⟩

theorem after (h : Alike now x x') (hl : now ≤ later) : Alike later x x' :=
  ⟨h.registry, h.breaker.after hl, h.sightings, h.ledger⟩

theorem resolve (h : Alike now x x') (c : Call) : x.resolve c = x'.resolve c := by
  unfold Exchange.resolve
  rw [h.registry]

theorem admitted (h : Alike m.now x x') (c : Call) : x.admitted m c = x'.admitted m c :=
  (h.breaker.admission c.backend).1

theorem checked (h : Alike m.now x x') (c : Call) : Alike m.now (x.checked m c) (x'.checked m c) :=
  ⟨h.registry, (h.breaker.admission c.backend).2, h.sightings, h.ledger⟩

theorem addTrace (h : Alike now x x') (m : Moment) (t : Trace) :
    Alike now (x.addTrace m t) (x'.addTrace m t) :=
  ⟨h.registry, h.breaker, h.sightings, congrArg (fun l => (l.add m.wall t).2) h.ledger⟩

theorem refuseOpen (h : Alike m.now x x') (c : Call) :
    ((x.checked m c).refuseOpen m c).1 = ((x'.checked m c).refuseOpen m c).1 ∧
      Alike m.now ((x.checked m c).refuseOpen m c).2 ((x'.checked m c).refuseOpen m c).2 := by
  have ht := (h.checked c).addTrace m (c.trace "" (.real 0.0) .opened (some .circuitOpen))
  have hr : (x.checked m c).breaker.retryAfter c.backend m.now =
      (x'.checked m c).breaker.retryAfter c.backend m.now :=
    h.breaker.retryAfter_admission c.backend m.now
  unfold Exchange.refuseOpen
  rw [hr]
  cases (x'.checked m c).breaker.retryAfter c.backend m.now with
  | error e => exact ⟨rfl, ht⟩
  | ok seconds => exact ⟨rfl, ht⟩

theorem creditBackend (h : Alike now x x') (m : Moment) (c : Call) :
    Alike now (x.creditBackend m c).val (x'.creditBackend m c).val :=
  ⟨h.registry, h.breaker.recordSuccess c.backend m.now,
    congrArg (Sightings.markHealthy · c.backend m.now) h.sightings, h.ledger⟩

theorem settle (h : Alike now x x') (m : Moment) (c : Call) (state : CircuitState) (o : Outcome) :
    (x.settle m c state o).val.1 = (x'.settle m c state o).val.1 ∧
      Alike now (x.settle m c state o).val.2 (x'.settle m c state o).val.2 := by
  cases o with
  | returned output => exact ⟨rfl, (h.creditBackend m c).addTrace m _⟩
  | returnedOther kind => exact ⟨rfl, h.creditBackend m c⟩
  | rejected report => exact ⟨rfl, h.addTrace m _⟩
  | raised kind message =>
      have hb : Alike now
          { x with
            breaker := (x.breaker.recordFailure c.backend m.now).val
            sightings := x.sightings.markUnhealthy c.backend (Outcome.blame kind message) m.now }
          { x' with
            breaker := (x'.breaker.recordFailure c.backend m.now).val
            sightings := x'.sightings.markUnhealthy c.backend (Outcome.blame kind message) m.now } :=
        ⟨h.registry, h.breaker.recordFailure c.backend m.now,
          congrArg (Sightings.markUnhealthy · c.backend _ m.now) h.sightings, h.ledger⟩
      exact ⟨rfl, hb.addTrace m _⟩

theorem setHealth (h : Alike now x x') (id : String) (health : Option Bool) :
    Alike now { x with registry := x.registry.setHealth id health }
      { x' with registry := x'.registry.setHealth id health } :=
  ⟨congrArg (Registry.setHealth · id health) h.registry, h.breaker, h.sightings, h.ledger⟩

theorem dispatch (h : Alike m.now x x') (c : Call) :
    (x.dispatch m c).val.1 = (x'.dispatch m c).val.1 ∧
      Alike m.now (x.dispatch m c).val.2 (x'.dispatch m c).val.2 := by
  cases hr : x.resolve c with
  | error refusal =>
      rw [dispatch_of_error hr, dispatch_of_error ((h.resolve c).symm.trans hr)]
      exact ⟨rfl, h⟩
  | ok tool =>
      have he := resolve_eq_ok_iff.1 hr
      have he' := resolve_eq_ok_iff.1 ((h.resolve c).symm.trans hr)
      have ha := h.admitted c
      rw [← watched_fst, ← watched_fst]
      cases hallowed : (x.admitted m c).allowed with
      | false =>
          rw [(watched_of_refused he hallowed).1, (watched_of_refused he' (ha ▸ hallowed)).1]
          exact h.refuseOpen c
      | true =>
          rw [(watched_of_admitted he hallowed).1, (watched_of_admitted he' (ha ▸ hallowed)).1, ← ha]
          exact ((h.checked c).setHealth c.backend _).settle m c _ _

end Alike

end Switchboard.Exchange
