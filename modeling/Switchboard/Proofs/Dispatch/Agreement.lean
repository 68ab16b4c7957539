import Switchboard.Probe.Verdict
import Switchboard.Proofs.Breaker.Outcome
import Switchboard.Proofs.Dispatch.Effect

namespace Switchboard

def Verdict.Worded : Verdict → Prop
  | .unhealthy message => message ≠ ""
  | _ => True

theorem ProbeEnding.verdict_worded (e : ProbeEnding) : e.verdict.Worded := by
  cases e with
  | answers healthy =>
      cases healthy with
      | true => trivial
      | false => exact (by decide : "Probe returned unhealthy" ≠ "")
  | raises kind message =>
      rw [verdict]
      split
      · exact (by decide : timedOut ≠ "")
      · split
        · trivial
        · change ite _ _ _ ≠ ""
          split
          · decide
          · assumption

theorem ProbeCourse.within_worded (c : ProbeCourse) (timeoutMs : Nat) :
    (c.within timeoutMs).2.Worded := by
  unfold within
  split
  · exact c.ending.verdict_worded
  · split
    · exact c.ending.verdict_worded
    · exact (by decide : ProbeEnding.timedOut ≠ "")

def Tool.Attributable (t : Tool) : Prop :=
  ∀ args kind message, (t.handler args).outcome = .raised kind message → kind ≠ ""

theorem Tool.Attributable.react {t : Tool} (h : t.Attributable) {payload : Json}
    {kind message : String} (hr : (t.react payload).outcome = .raised kind message) :
    kind ≠ "" := by
  unfold Tool.react at hr
  split at hr
  · cases hr
  · exact h _ kind message hr

theorem Outcome.blame_ne_empty {kind : String} (hk : kind ≠ "") (message : String) :
    blame kind message ≠ "" := by
  unfold blame
  split
  · exact hk
  · assumption

namespace Exchange

inductive Moves (id : String) (x y : Exchange) : Prop
  | rests : y.sightings.get? id = x.sightings.get? id → x.breaker.Rests id y.breaker →
      Moves id x y
  | credits {now} : y.sightings.get? id = some ⟨true, now, none⟩ → y.breaker.Faultless id →
      Moves id x y
  | blames {now error} : y.sightings.get? id = some ⟨false, now, some error⟩ → error ≠ "" →
      0 < y.breaker.failures id → Moves id x y

variable {id k : String} {now : Float} {m : Moment} {c : Call} {tool : Tool} {x y z : Exchange}

theorem Moves.refl (id : String) (x : Exchange) : x.Moves id x := .rests rfl (.refl id x.breaker)

theorem Moves.trans (h : x.Moves id y) (h' : y.Moves id z) : x.Moves id z := by
  cases h' with
  | credits hs hf => exact .credits hs hf
  | blames hs he hf => exact .blames hs he hf
  | rests hs' hr' =>
      cases h with
      | rests hs hr => exact .rests (hs'.trans hs) (hr.trans hr')
      | credits hs hf => exact .credits (hs'.trans hs) (hr'.faultless hf)
      | blames hs he hf => exact .blames (hs'.trans hs) he (hr'.failures ▸ hf)

theorem moves_checked (x : Exchange) (m : Moment) (c : Call) (r : Registry) (id : String) :
    x.Moves id { x.checked m c with registry := r } :=
  .rests rfl (Breaker.rests_act (a := .ask m.now) rfl x.breaker c.backend id)

theorem moves_of_put {a : Breaker.Act} {s : Sighting} (hb : y.breaker = x.breaker.act k a)
    (hs : y.sightings = x.sightings.put k s)
    (hk : y.sightings.get? k = some s → x.Moves k y) (id : String) : x.Moves id y := by
  by_cases hid : id = k
  · rw [hid]
    apply hk
    rw [hs]
    exact Roster.get?_put_self _ _ _
  · refine .rests ?_ (hb ▸ Breaker.rests_of_ne hid x.breaker a)
    rw [hs]
    exact Roster.get?_put_of_ne _ _ hid

theorem moves_credit (hb : y.breaker = x.breaker.act k (.succeed now))
    (hs : y.sightings = x.sightings.markHealthy k now) (id : String) : x.Moves id y := by
  refine moves_of_put hb hs ?_ id
  intro hseen
  exact .credits hseen (hb ▸ Breaker.faultless_succeed x.breaker k now)

theorem moves_blame {error : String} (he : error ≠ "")
    (hb : y.breaker = x.breaker.act k (.fail now))
    (hs : y.sightings = x.sightings.markUnhealthy k error now) (id : String) : x.Moves id y := by
  refine moves_of_put hb hs ?_ id
  intro hseen
  exact .blames hseen he (hb ▸ Breaker.failures_fail x.breaker k now)

theorem moves_enter (x : Exchange) (now : Float) {o : String × Verdict} (ho : o.2.Worded)
    (id : String) : x.Moves id (x.enter true now o).val := by
  obtain ⟨k, v⟩ := o
  cases v with
  | healthy => exact moves_credit rfl rfl id
  | unhealthy message => exact moves_blame ho rfl rfl id
  | cancelled => exact .refl id x

theorem moves_settle (x : Exchange) (m : Moment) (c : Call) (state : CircuitState) {o : Outcome}
    (ho : ∀ kind message, o = .raised kind message → kind ≠ "") (id : String) :
    x.Moves id (x.settle m c state o).val.2 := by
  cases o with
  | returned output => exact moves_credit rfl rfl id
  | returnedOther kind => exact moves_credit rfl rfl id
  | rejected report => exact .rests rfl (.refl id x.breaker)
  | raised kind message =>
      exact moves_blame (Outcome.blame_ne_empty (ho kind message rfl) message) rfl rfl id

theorem moves_dispatch (ht : ∀ tool, x.Entitled c tool → tool.Attributable) (m : Moment)
    (id : String) : x.Moves id (x.dispatch m c).val.2 := by
  rcases x.dispatch_cases m c with hx | ⟨t, hx⟩ | ⟨tool, he, hx⟩
  · rw [hx]
    exact .refl id x
  · rw [hx]
    exact .rests rfl (.refl id x.breaker)
  · rw [hx]
    exact (moves_checked x m c _ id).trans
      (moves_settle _ m c _ (fun _ _ hr => (ht tool he).react hr) id)

structure Agrees (id : String) (x : Exchange) : Prop where
  closed : x.breaker.failures id = 0 → x.breaker.Closed id
  blamed : 0 < x.breaker.failures id →
    ∃ now error, x.sightings.get? id = some ⟨false, now, some error⟩ ∧ error ≠ ""
  credited : ∀ s, x.sightings.get? id = some s → s.healthy = true →
    x.breaker.failures id = 0 ∧ s.error = none

theorem agrees_of_faultless (hf : x.breaker.Faultless id)
    (hs : ∀ s, x.sightings.get? id = some s → s.healthy = true → s.error = none) :
    x.Agrees id where
  closed _ := hf.closed
  blamed h := absurd hf.failures h.ne'
  credited s h hh := ⟨hf.failures, hs s h hh⟩

theorem Agrees.moves (h : x.Agrees id) (hm : x.Moves id y) : y.Agrees id := by
  cases hm with
  | rests hs hr =>
      constructor
      · intro hf
        exact hr.closed.2 (h.closed (hr.failures.symm.trans hf))
      · rw [hr.failures, hs]
        exact h.blamed
      · rw [hr.failures, hs]
        exact h.credited
  | credits hs hf =>
      refine agrees_of_faultless hf ?_
      intro s h _
      rw [hs, Option.some.injEq] at h
      exact h ▸ rfl
  | blames hs he hf =>
      refine ⟨fun h => absurd h hf.ne', fun _ => ⟨_, _, hs, he⟩, ?_⟩
      intro s h hh
      rw [hs, Option.some.injEq] at h
      subst h
      cases hh

theorem Agrees.reset (h : x.Agrees id) :
    Agrees id { x with breaker := x.breaker.reset id } :=
  agrees_of_faultless (x.breaker.faultless_reset id) fun s hs hh => (h.credited s hs hh).2

end Exchange

end Switchboard
