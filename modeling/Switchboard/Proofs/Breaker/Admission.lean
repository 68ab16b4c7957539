import Switchboard.Proofs.Breaker.History

namespace Switchboard.Breaker

structure Tracks (standard : CircuitLimits) (h : List Act) (c : Circuit) : Prop where
  limits : c.limits = inForce standard h
  failures : c.failures = failuresSince h
  last : ∃ t, c.lastFailure = some t ∧ lastFailure h = some t
  closed : c.state = .closed ↔ ¬ Tripped standard h
  halfOpen : c.state = .halfOpen ↔ Tripped standard h ∧ Rested standard h

structure Quiet (standard : CircuitLimits) (h : List Act) (pending : Option CircuitLimits) :
    Prop where
  failures : failuresSince h = 0
  calm : ¬ Tripped standard h
  limits : pending.getD standard = inForce standard h

def Recorded (standard : CircuitLimits) (h : List Act) :
    Option Circuit → Option CircuitLimits → Prop
  | none, pending => Quiet standard h pending
  | some c, pending => pending = none ∧ Tracks standard h c

variable {standard : CircuitLimits} {h : List Act} {c : Circuit}

theorem Tracks.rested_iff (hc : Tracks standard h c) (now : Float) :
    c.rested now = true ↔ ∃ t, lastFailure h = some t ∧
      Number.leFloat (inForce standard h).resetMs ((now - t) * 1000.0) = true := by
  obtain ⟨t, hl, ht⟩ := hc.last
  simp only [Circuit.rested, Circuit.elapsed, hl, hc.limits, ht, Option.some.injEq,
    exists_eq_left']

theorem Tracks.opened_iff (hc : Tracks standard h c) :
    c.state = .opened ↔ Tripped standard h ∧ ¬ Rested standard h := by
  have h1 := hc.closed
  have h2 := hc.halfOpen
  cases hs : c.state with
  | closed =>
      have hn := h1.1 hs
      simp [hn]
  | opened =>
      have ht : Tripped standard h := by
        by_contra hn
        simp [h1.2 hn] at hs
      have hr : ¬ Rested standard h := by
        intro hr
        simp [h2.2 ⟨ht, hr⟩] at hs
      simp [ht, hr]
  | halfOpen =>
      have hr := (h2.1 hs).2
      simp [hr]

theorem Tracks.configure (hc : Tracks standard h c) (limits : CircuitLimits) :
    Tracks standard (h ++ [.configure limits]) { c with limits := limits } where
  limits := by simp [inForce_concat, Act.resets, Act.limits?]
  failures := by simp [failuresSince_concat, Act.clears, Act.fails, hc.failures]
  last := by simpa [lastFailure_concat, Act.failedAt?] using hc.last
  closed := by simpa [tripped_concat, Act.clears, Act.fails] using hc.closed
  halfOpen := by
    simpa [tripped_concat, rested_concat, Act.clears, Act.fails, Act.checkedAt?] using hc.halfOpen

theorem Tracks.succeed (hc : Tracks standard h c) (now : Float) :
    Tracks standard (h ++ [.succeed now]) (c.succeed now) where
  limits := by simp [inForce_concat, Act.resets, Act.limits?, Circuit.succeed, hc.limits]
  failures := by simp [failuresSince_concat, Act.clears, Circuit.succeed]
  last := by simpa [lastFailure_concat, Act.failedAt?, Circuit.succeed] using hc.last
  closed := by simp [tripped_concat, Act.clears, Act.fails, Circuit.succeed]
  halfOpen := by simp [tripped_concat, Act.clears, Act.fails, Circuit.succeed]

theorem Tracks.fail (hc : Tracks standard h c) (now : Float) :
    Tracks standard (h ++ [.fail now]) (c.fail now) where
  limits := by simp [inForce_concat, Act.resets, Act.limits?, Circuit.fail, hc.limits]
  failures := by simp [failuresSince_concat, Act.clears, Act.fails, Circuit.fail, hc.failures]
  last := ⟨now, rfl, by simp [lastFailure_concat, Act.failedAt?]⟩
  closed := by
    have h1 := hc.closed
    have h2 := hc.failures
    have h3 := hc.limits
    simp only [tripped_concat, Act.clears, Act.fails, true_and, Circuit.fail]
    cases hs : c.state with
    | closed =>
        have hn := h1.1 hs
        simp only [hn, or_false, h2, h3]
        split <;> simp_all
    | opened =>
        have ht := (hc.opened_iff.1 hs).1
        simp [ht]
    | halfOpen =>
        have ht := (hc.halfOpen.1 hs).1
        simp [ht]
  halfOpen := by
    simp only [rested_concat, Act.checkedAt?, Act.fails, Circuit.fail]
    cases hs : c.state with
    | closed => simp; split <;> simp
    | opened => simp
    | halfOpen => simp

theorem Tracks.check {a : Act} {now : Float} (hc : Tracks standard h c)
    (ha : a = .ask now ∨ a = .status now) : Tracks standard (h ++ [a]) (c.check now) where
  limits := by
    rw [Circuit.check_limits, hc.limits]
    rcases ha with rfl | rfl <;> simp [inForce_concat, Act.resets, Act.limits?]
  failures := by
    rw [Circuit.check_failures, hc.failures]
    rcases ha with rfl | rfl <;> simp [failuresSince_concat, Act.clears, Act.fails]
  last := by
    rw [Circuit.check_lastFailure]
    rcases ha with rfl | rfl <;> simpa [lastFailure_concat, Act.failedAt?] using hc.last
  closed := by
    rw [Circuit.check_state_eq_closed_iff, hc.closed]
    rcases ha with rfl | rfl <;> simp [tripped_concat, Act.clears, Act.fails]
  halfOpen := by
    have ht : Tripped standard (h ++ [a]) ↔ Tripped standard h := by
      rcases ha with rfl | rfl <;> simp [tripped_concat, Act.clears, Act.fails]
    have hr : Rested standard (h ++ [a]) ↔ c.rested now = true ∨ Rested standard h := by
      rw [hc.rested_iff]
      rcases ha with rfl | rfl <;> simp [rested_concat, Act.checkedAt?, Act.fails]
    rw [ht, hr]
    unfold Circuit.check
    split
    · next hs =>
        have := hc.opened_iff.1 hs.1
        simp [hs.2, this.1]
    · next hs =>
        rw [hc.halfOpen]
        constructor
        · rintro ⟨ht, hr⟩
          exact ⟨ht, Or.inr hr⟩
        · rintro ⟨ht, hr | hr⟩
          · refine ⟨ht, ?_⟩
            by_contra hn
            exact hs ⟨hc.opened_iff.2 ⟨ht, hn⟩, hr⟩
          · exact ⟨ht, hr⟩

theorem Quiet.fail {pending : Option CircuitLimits} (hq : Quiet standard h pending) (now : Float) :
    Tracks standard (h ++ [.fail now]) ((Circuit.fresh (pending.getD standard)).fail now) where
  limits := by simp [inForce_concat, Act.resets, Act.limits?, Circuit.fail, Circuit.fresh, hq.limits]
  failures := by
    simp [failuresSince_concat, Act.clears, Act.fails, Circuit.fail, Circuit.fresh, hq.failures]
  last := ⟨now, rfl, by simp [lastFailure_concat, Act.failedAt?]⟩
  closed := by
    simp only [tripped_concat, Act.clears, Act.fails, true_and, Circuit.fail, Circuit.fresh,
      hq.calm, or_false, hq.failures, hq.limits]
    split <;> simp_all
  halfOpen := by
    simp only [rested_concat, Act.checkedAt?, Act.fails, Circuit.fail, Circuit.fresh]
    simp
    split <;> simp

theorem Quiet.still {pending : Option CircuitLimits} {a : Act} (hq : Quiet standard h pending)
    (hf : a.fails = false) (hr : a.resets = false) (hl : a.limits? = none) :
    Quiet standard (h ++ [a]) pending where
  failures := by simp [failuresSince_concat, hf, hq.failures]
  calm := by simp [tripped_concat, hf, hq.calm]
  limits := by simp [inForce_concat, hr, hl, hq.limits]

theorem quiet_reset : Quiet standard (h ++ [.reset]) none where
  failures := by simp [failuresSince_concat, Act.clears]
  calm := by simp [tripped_concat, Act.clears, Act.fails]
  limits := by simp [inForce_concat, Act.resets]

theorem quiet_nil : Quiet standard [] none where
  failures := failuresSince_nil
  calm := not_tripped_nil
  limits := by simp

theorem recorded_act {b : Breaker} {id : String} (hs : b.standard = standard)
    (hr : Recorded standard h (b.circuits.get? id) (b.pending.get? id)) (a : Act) :
    Recorded standard (h ++ [a]) ((b.act id a).circuits.get? id)
      ((b.act id a).pending.get? id) := by
  cases hc : b.circuits.get? id with
  | none =>
      rw [hc] at hr
      cases a with
      | configure limits =>
          simp only [act, configure, hc, Roster.get?_put_self]
          exact ⟨by simp [failuresSince_concat, Act.clears, Act.fails, hr.failures],
            by simp [tripped_concat, Act.fails, hr.calm],
            by simp [inForce_concat, Act.resets, Act.limits?]⟩
      | ask now =>
          simp only [act, admission, hc, Logged.val_pure]
          exact hr.still rfl rfl rfl
      | status now =>
          simp only [act, status, hc, Logged.val_pure]
          exact hr.still rfl rfl rfl
      | succeed now =>
          simp only [act, recordSuccess, hc, Logged.val_pure]
          exact hr.still rfl rfl rfl
      | fail now =>
          simp only [act, recordFailure, hc, turn, Roster.get?_put_self, Roster.get?_erase, if_true, hs]
          exact ⟨rfl, hr.fail now⟩
      | reset =>
          simp only [act, reset, Roster.get?_erase, if_true]
          exact quiet_reset
  | some c =>
      rw [hc] at hr
      obtain ⟨hp, ht⟩ := hr
      cases a with
      | configure limits =>
          simp only [act, configure, hc, Roster.get?_put_self]
          exact ⟨hp, ht.configure limits⟩
      | ask now =>
          simp only [act, admission, hc, Logged.val_bind, turn, Logged.val_pure, Roster.get?_put_self]
          exact ⟨hp, ht.check (Or.inl rfl)⟩
      | status now =>
          simp only [act, status, hc, Logged.val_bind, turn, Logged.val_pure, Roster.get?_put_self]
          exact ⟨hp, ht.check (Or.inr rfl)⟩
      | succeed now =>
          simp only [act, recordSuccess, hc, turn, Roster.get?_put_self]
          exact ⟨hp, ht.succeed now⟩
      | fail now =>
          simp only [act, recordFailure, hc, turn, Roster.get?_put_self]
          exact ⟨hp, ht.fail now⟩
      | reset =>
          simp only [act, reset, Roster.get?_erase, if_true]
          exact quiet_reset

theorem standard_run (standard : CircuitLimits) (es : List Event) :
    (run standard es).standard = standard := by
  induction es using List.reverseRecOn with
  | nil => rfl
  | append_singleton es e ih => rw [run_concat, standard_act, ih]

theorem recorded_run (standard : CircuitLimits) (es : List Event) (id : String) :
    Recorded standard (acts id es) ((run standard es).circuits.get? id)
      ((run standard es).pending.get? id) := by
  induction es using List.reverseRecOn with
  | nil => exact quiet_nil
  | append_singleton es e ih =>
      rw [run_concat, acts_concat]
      split
      · next he =>
          rw [he]
          exact recorded_act (standard_run standard es) ih e.act
      · next he =>
          obtain ⟨hc, hp⟩ := act_of_ne (Ne.symm he) (run standard es) e.act
          rwa [hc, hp]

theorem admission_law (standard : CircuitLimits) (es : List Event) (id : String) (now : Float) :
    let answer := ((run standard es).admission id now).val.1
    (answer.allowed = false ↔
      Tripped standard (acts id es) ∧ ¬ Rested standard (acts id es ++ [.ask now])) ∧
    (answer.state = .closed ↔ ¬ Tripped standard (acts id es)) ∧
    (answer.state = .halfOpen ↔
      Tripped standard (acts id es) ∧ Rested standard (acts id es ++ [.ask now])) := by
  have hr := recorded_run standard es id
  have ht : Tripped standard (acts id es ++ [.ask now]) ↔ Tripped standard (acts id es) := by
    simp [tripped_concat, Act.clears, Act.fails]
  cases hc : (run standard es).circuits.get? id with
  | none =>
      rw [hc] at hr
      simp only [admission, hc, Logged.val_pure]
      simp [hr.calm]
  | some c =>
      rw [hc] at hr
      have hk := hr.2.check (Or.inl rfl : Act.ask now = .ask now ∨ _)
      simp only [admission, hc, Logged.val_bind, Logged.val_pure, ← ht]
      refine ⟨?_, hk.closed, hk.halfOpen⟩
      rw [← hk.opened_iff]
      simp

end Switchboard.Breaker
