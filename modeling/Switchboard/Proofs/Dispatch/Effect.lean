import Switchboard.Proofs.Breaker.Run
import Switchboard.Proofs.Dispatch.Passage

namespace Switchboard

structure Ledger.Gains (l l' : Ledger) (time : Instant) (t : Trace) : Prop where
  capacity : l'.capacity = l.capacity
  supply : l'.supply = l.supply
  issued : l'.issued = l.issued + 1
  records : l'.records = retain l.capacity (l.records ++ [⟨l.supply.id (l.issued + 1), time, t⟩])

theorem Ledger.gains_add (l : Ledger) (time : Instant) (t : Trace) :
    l.Gains (l.add time t).2 time t := ⟨rfl, rfl, rfl, rfl⟩

namespace Breaker

structure SameBut (id : String) (b b' : Breaker) : Prop where
  standard : b'.standard = b.standard
  circuits : ∀ k, k ≠ id → b'.circuits.get? k = b.circuits.get? k
  pending : ∀ k, k ≠ id → b'.pending.get? k = b.pending.get? k

variable {id : String} {b b₁ b₂ b₃ : Breaker}

theorem SameBut.trans (h : b₁.SameBut id b₂) (h' : b₂.SameBut id b₃) : b₁.SameBut id b₃ where
  standard := h'.standard.trans h.standard
  circuits k hk := (h'.circuits k hk).trans (h.circuits k hk)
  pending k hk := (h'.pending k hk).trans (h.pending k hk)

theorem sameBut_act (id : String) (b : Breaker) (a : Act) : b.SameBut id (b.act id a) where
  standard := standard_act b id a
  circuits _ hk := (act_of_ne hk b a).1
  pending _ hk := (act_of_ne hk b a).2

def HalfOpens (id : String) (b b' : Breaker) : Prop :=
  ∃ c, b.circuits.get? id = some c ∧ c.state = .opened ∧
    b' = { b with circuits := b.circuits.put id { c with state := .halfOpen } }

end Breaker

def Call.failure (c : Call) (latency : Number) (state : CircuitState) (kind : String) : Trace :=
  ⟨c.backend, c.tool, c.payload, "", latency, false, state, some kind⟩

namespace Registry

theorem get?_setHealth_of_ne (r : Registry) {id k : String} (hk : k ≠ id) (health : Option Bool) :
    (r.setHealth id health).backends.get? k = r.backends.get? k := by
  unfold setHealth
  cases health with
  | none => rfl
  | some healthy =>
      cases r.backends.get? id with
      | none => rfl
      | some b => exact Roster.get?_put_of_ne _ _ hk

end Registry

namespace Exchange

structure SameBut (id : String) (x y : Exchange) : Prop where
  breaker : x.breaker.SameBut id y.breaker
  sightings : ∀ k, k ≠ id → y.sightings.get? k = x.sightings.get? k
  backends : ∀ k, k ≠ id → y.registry.backends.get? k = x.registry.backends.get? k

def Settled (x : Exchange) (m : Moment) (c : Call) (y : Exchange) : Outcome → Prop
  | .rejected _ =>
      (y.breaker = x.breaker ∨ x.breaker.HalfOpens c.backend y.breaker) ∧
        y.sightings = x.sightings ∧
        x.ledger.Gains y.ledger m.wall
          (c.failure c.latency (x.admitted m c).state "invalid_arguments")
  | .raised kind message =>
      y.breaker = ((x.checked m c).breaker.recordFailure c.backend m.now).val ∧
        y.sightings = x.sightings.markUnhealthy c.backend (Outcome.blame kind message) m.now ∧
        x.ledger.Gains y.ledger m.wall
          (c.failure c.latency (x.admitted m c).state "upstream_failure")
  | .returned output =>
      y.breaker = ((x.checked m c).breaker.recordSuccess c.backend m.now).val ∧
        y.sightings = x.sightings.markHealthy c.backend m.now ∧
        x.ledger.Gains y.ledger m.wall
          ⟨c.backend, c.tool, c.payload, Call.preview output, c.latency, true,
            (x.admitted m c).state, none⟩
  | .returnedOther _ =>
      y.breaker = ((x.checked m c).breaker.recordSuccess c.backend m.now).val ∧
        y.sightings = x.sightings.markHealthy c.backend m.now ∧
        y.ledger = x.ledger

structure Effects (x : Exchange) (m : Moment) (c : Call) (runs : List (Tool × Args))
    (y : Exchange) : Prop where
  once : runs.length ≤ 1
  entitled : ∀ tool args, (tool, args) ∈ runs →
    x.Entitled c tool ∧ (x.admitted m c).allowed = true ∧ tool.form.read c.payload = .passed args
  turnedAway : (∀ tool, ¬ x.Entitled c tool) → y = x
  shut : ∀ tool, x.Entitled c tool → (x.admitted m c).allowed = false →
    y.breaker = x.breaker ∧ y.sightings = x.sightings ∧
      x.ledger.Gains y.ledger m.wall (c.failure (.real 0.0) .opened "circuit_open")
  settled : ∀ tool, x.Entitled c tool → (x.admitted m c).allowed = true →
    x.Settled m c y (tool.react c.payload).outcome
  isolated : x.SameBut c.backend y

variable {x : Exchange} {m : Moment} {c : Call} {tool : Tool}

theorem checked_of_refused (ha : (x.admitted m c).allowed = false) : x.checked m c = x := by
  have hb := Breaker.admission_of_refused ha
  unfold checked
  rw [hb]

theorem checked_breaker (x : Exchange) (m : Moment) (c : Call) :
    (x.checked m c).breaker = x.breaker ∨
      x.breaker.HalfOpens c.backend (x.checked m c).breaker :=
  Breaker.admission_breaker x.breaker c.backend m.now

theorem refuseOpen_snd (x : Exchange) (m : Moment) (c : Call) :
    (x.refuseOpen m c).2 = x.addTrace m (c.failure (.real 0.0) .opened "circuit_open") := by
  unfold refuseOpen
  cases x.breaker.retryAfter c.backend m.now with
  | error e => rfl
  | ok seconds => rfl

theorem settled_settle (x : Exchange) (m : Moment) (c : Call) (r : Registry) (o : Outcome) :
    x.Settled m c (({ x.checked m c with registry := r }.settle m c (x.admitted m c).state o).val.2)
      o := by
  cases o with
  | returned output => exact ⟨rfl, rfl, x.ledger.gains_add _ _⟩
  | returnedOther kind => exact ⟨rfl, rfl, rfl⟩
  | rejected report => exact ⟨checked_breaker x m c, rfl, x.ledger.gains_add _ _⟩
  | raised kind message => exact ⟨rfl, rfl, x.ledger.gains_add _ _⟩

theorem settle_registry (x : Exchange) (m : Moment) (c : Call) (state : CircuitState)
    (o : Outcome) : (x.settle m c state o).val.2.registry = x.registry := by
  cases o <;> rfl

theorem dispatch_cases (x : Exchange) (m : Moment) (c : Call) :
    (x.dispatch m c).val.2 = x ∨ (∃ t, (x.dispatch m c).val.2 = x.addTrace m t) ∨
      ∃ tool, x.Entitled c tool ∧ (x.dispatch m c).val.2 =
        ({ x.checked m c with
            registry := x.registry.setHealth c.backend (tool.react c.payload).health }.settle m c
          (x.admitted m c).state (tool.react c.payload).outcome).val.2 := by
  rw [← watched_fst]
  by_cases h : ∃ tool, x.Entitled c tool
  · obtain ⟨tool, h⟩ := h
    cases ha : (x.admitted m c).allowed with
    | false =>
        rw [(watched_of_refused h ha).1, checked_of_refused ha, refuseOpen_snd]
        exact .inr (.inl ⟨_, rfl⟩)
    | true =>
        rw [(watched_of_admitted h ha).1]
        exact .inr (.inr ⟨tool, h, rfl⟩)
  · exact .inl (watched_of_not_entitled fun tool ht => h ⟨tool, ht⟩).1

theorem SameBut.refl (id : String) (x : Exchange) : x.SameBut id x where
  breaker := ⟨rfl, fun _ _ => rfl, fun _ _ => rfl⟩
  sightings _ _ := rfl
  backends _ _ := rfl

theorem sameBut_settle (x : Exchange) (m : Moment) (c : Call) (state : CircuitState)
    (o : Outcome) : x.SameBut c.backend (x.settle m c state o).val.2 where
  breaker := by
    cases o with
    | returned output => exact Breaker.sameBut_act c.backend x.breaker (.succeed m.now)
    | returnedOther kind => exact Breaker.sameBut_act c.backend x.breaker (.succeed m.now)
    | rejected report => exact (SameBut.refl c.backend x).breaker
    | raised kind message => exact Breaker.sameBut_act c.backend x.breaker (.fail m.now)
  sightings := by
    intro k hk
    cases o with
    | returned output => exact Roster.get?_put_of_ne _ _ hk
    | returnedOther kind => exact Roster.get?_put_of_ne _ _ hk
    | rejected report => rfl
    | raised kind message => exact Roster.get?_put_of_ne _ _ hk
  backends := by
    intro k _
    rw [settle_registry]

theorem SameBut.trans {id : String} {x y z : Exchange} (h : x.SameBut id y)
    (h' : y.SameBut id z) : x.SameBut id z where
  breaker := h.breaker.trans h'.breaker
  sightings k hk := (h'.sightings k hk).trans (h.sightings k hk)
  backends k hk := (h'.backends k hk).trans (h.backends k hk)

theorem sameBut_checked (x : Exchange) (m : Moment) (c : Call) (health : Option Bool) :
    x.SameBut c.backend
      { x.checked m c with registry := x.registry.setHealth c.backend health } where
  breaker := Breaker.sameBut_act c.backend x.breaker (.ask m.now)
  sightings _ _ := rfl
  backends _ hk := Registry.get?_setHealth_of_ne _ hk health

theorem effects_of_not_entitled (h : ∀ tool, ¬ x.Entitled c tool) : x.Effects m c [] x where
  once := Nat.zero_le _
  entitled _ _ hr := absurd hr List.not_mem_nil
  turnedAway _ := rfl
  shut tool ht := absurd ht (h tool)
  settled tool ht := absurd ht (h tool)
  isolated := .refl _ x

theorem effects_of_refused (h : x.Entitled c tool) (ha : (x.admitted m c).allowed = false) :
    x.Effects m c [] (x.addTrace m (c.failure (.real 0.0) .opened "circuit_open")) where
  once := Nat.zero_le _
  entitled _ _ hr := absurd hr List.not_mem_nil
  turnedAway hn := absurd h (hn tool)
  shut _ _ _ := ⟨rfl, rfl, x.ledger.gains_add _ _⟩
  settled _ _ hs := absurd (ha.symm.trans hs) (by simp)
  isolated := ⟨(SameBut.refl _ x).breaker, fun _ _ => rfl, fun _ _ => rfl⟩

theorem effects_of_admitted (h : x.Entitled c tool) (ha : (x.admitted m c).allowed = true) :
    x.Effects m c (tool.uses c.payload)
      ({ x.checked m c with
          registry := x.registry.setHealth c.backend (tool.react c.payload).health }.settle m c
        (x.admitted m c).state (tool.react c.payload).outcome).val.2 where
  once := tool.length_uses_le c.payload
  entitled s args hr := by
    obtain ⟨rfl, hf⟩ := Tool.eq_of_mem_uses hr
    exact ⟨h, ha, hf⟩
  turnedAway hn := absurd h (hn tool)
  shut _ _ hs := absurd (ha.symm.trans hs) (by simp)
  settled s hs _ := by
    obtain rfl : s = tool := h.unique hs
    exact settled_settle x m c _ _
  isolated := (sameBut_checked x m c _).trans (sameBut_settle _ m c _ _)

theorem dispatch_effects (x : Exchange) (m : Moment) (c : Call) :
    (x.watched m c).1 = x.dispatch m c ∧
      x.Effects m c (x.watched m c).2 (x.dispatch m c).val.2 := by
  refine ⟨watched_fst x m c, ?_⟩
  rw [← watched_fst]
  by_cases h : ∃ tool, x.Entitled c tool
  · obtain ⟨tool, h⟩ := h
    cases ha : (x.admitted m c).allowed with
    | false =>
        obtain ⟨hv, hr⟩ := watched_of_refused h ha
        rw [hv, hr, checked_of_refused ha, refuseOpen_snd]
        exact effects_of_refused h ha
    | true =>
        obtain ⟨hv, hr⟩ := watched_of_admitted h ha
        rw [hv, hr]
        exact effects_of_admitted h ha
  · have hn : ∀ tool, ¬ x.Entitled c tool := fun tool ht => h ⟨tool, ht⟩
    obtain ⟨hv, hr⟩ := watched_of_not_entitled (m := m) hn
    rw [hv, hr]
    exact effects_of_not_entitled hn

end Exchange

end Switchboard
