import Mathlib.Data.List.Induction
import Switchboard.Breaker

namespace Switchboard.Breaker

inductive Act where
  | configure (limits : CircuitLimits)
  | ask (now : Float)
  | status (now : Float)
  | succeed (now : Float)
  | fail (now : Float)
  | reset

structure Event where
  backend : String
  act : Act

def act (b : Breaker) (id : String) : Act → Breaker
  | .configure limits => b.configure id limits
  | .ask now => (b.admission id now).val.2
  | .status now => (b.status id now).val.2
  | .succeed now => (b.recordSuccess id now).val
  | .fail now => (b.recordFailure id now).val
  | .reset => b.reset id

def run (standard : CircuitLimits) (es : List Event) : Breaker :=
  es.foldl (fun b e => b.act e.backend e.act) (start standard)

def acts (id : String) (es : List Event) : List Act :=
  (es.filter (fun e => e.backend = id)).map Event.act

theorem run_concat (standard : CircuitLimits) (es : List Event) (e : Event) :
    run standard (es ++ [e]) = (run standard es).act e.backend e.act := by
  simp [run]

theorem acts_concat (id : String) (es : List Event) (e : Event) :
    acts id (es ++ [e]) = if e.backend = id then acts id es ++ [e.act] else acts id es := by
  unfold acts
  rw [List.filter_append, List.map_append]
  split
  · next he => simp [he]
  · next he => simp [he]

theorem act_of_ne {id k : String} (hk : k ≠ id) (b : Breaker) (a : Act) :
    (b.act id a).circuits.get? k = b.circuits.get? k ∧
      (b.act id a).pending.get? k = b.pending.get? k := by
  cases a with
  | configure limits =>
      simp only [act, configure]
      split <;> simp [Roster.get?_put_of_ne, hk]
  | ask now =>
      simp only [act, admission]
      split <;> simp [turn, Roster.get?_put_of_ne, hk]
  | status now =>
      simp only [act, status]
      split <;> simp [turn, Roster.get?_put_of_ne, hk]
  | succeed now =>
      simp only [act, recordSuccess]
      split <;> simp [turn, Roster.get?_put_of_ne, hk]
  | fail now =>
      simp only [act, recordFailure]
      split <;> simp [turn, Roster.get?_put_of_ne, Roster.get?_erase, hk]
  | reset => simp [act, reset, Roster.get?_erase, hk]

theorem standard_act (b : Breaker) (id : String) (a : Act) :
    (b.act id a).standard = b.standard := by
  cases a with
  | configure limits => simp only [act, configure]; split <;> rfl
  | ask now => simp only [act, admission]; split <;> rfl
  | status now => simp only [act, status]; split <;> rfl
  | succeed now => simp only [act, recordSuccess]; split <;> rfl
  | fail now => simp only [act, recordFailure]; split <;> rfl
  | reset => rfl

end Switchboard.Breaker
