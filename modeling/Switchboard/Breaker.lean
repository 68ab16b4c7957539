import Switchboard.Circuit
import Switchboard.Roster

namespace Switchboard

structure Admission where
  allowed : Bool
  state : CircuitState
  deriving DecidableEq, Repr

structure CircuitStatus where
  state : CircuitState
  failures : Nat
  lastFailure : Option Float
  lastSuccess : Option Float

namespace CircuitStatus

def untracked : CircuitStatus := ⟨.closed, 0, none, none⟩

def ofCircuit (c : Circuit) : CircuitStatus := ⟨c.state, c.failures, c.lastFailure, c.lastSuccess⟩

def toJson (s : CircuitStatus) : Json :=
  .obj [("state", .str s.state.name), ("failures", .ofNat s.failures),
    ("last_failure_at", Json.ofOption .real s.lastFailure),
    ("last_success_at", Json.ofOption .real s.lastSuccess)]

end CircuitStatus

/-- Circuits exist from a backend's first failure on; limits set before wait for it. -/
structure Breaker where
  standard : CircuitLimits
  circuits : Roster Circuit
  pending : Roster CircuitLimits

namespace Breaker

def start (standard : CircuitLimits) : Breaker := ⟨standard, .empty, .empty⟩

def tracked (b : Breaker) : List String := b.circuits.ids

def configure (b : Breaker) (id : String) (limits : CircuitLimits) : Breaker :=
  match b.circuits.get? id with
  | none => { b with pending := b.pending.put id limits }
  | some c => { b with circuits := b.circuits.put id { c with limits := limits } }

def turn (b : Breaker) (id : String) (before after : Circuit) : Logged Breaker :=
  ⟨{ b with circuits := b.circuits.put id after }, before.turn id after⟩

def admission (b : Breaker) (id : String) (now : Float) : Logged (Admission × Breaker) :=
  match b.circuits.get? id with
  | none => pure (⟨true, .closed⟩, b)
  | some c => do
      let after := c.check now
      let b ← b.turn id c after
      pure (⟨after.state ≠ .opened, after.state⟩, b)

def status (b : Breaker) (id : String) (now : Float) : Logged (CircuitStatus × Breaker) :=
  match b.circuits.get? id with
  | none => pure (.untracked, b)
  | some c => do
      let after := c.check now
      let b ← b.turn id c after
      pure (.ofCircuit after, b)

def recordSuccess (b : Breaker) (id : String) (now : Float) : Logged Breaker :=
  match b.circuits.get? id with
  | none => pure b
  | some c => b.turn id c (c.succeed now)

def recordFailure (b : Breaker) (id : String) (now : Float) : Logged Breaker :=
  match b.circuits.get? id with
  | some c => b.turn id c (c.fail now)
  | none =>
      let c := Circuit.fresh ((b.pending.get? id).getD b.standard)
      { b with pending := b.pending.erase id }.turn id c (c.fail now)

def retryAfter (b : Breaker) (id : String) (now : Float) : Except Fault Float :=
  match b.circuits.get? id with
  | none => .ok 0.0
  | some c => c.retryAfter now

def reset (b : Breaker) (id : String) : Breaker :=
  { b with circuits := b.circuits.erase id, pending := b.pending.erase id }

theorem admission_of_untracked {b : Breaker} {id : String} (h : b.circuits.get? id = none)
    (now : Float) : (b.admission id now).val = (⟨true, .closed⟩, b) := by
  simp only [admission, h, Logged.val_pure]

theorem admission_of_tracked {b : Breaker} {id : String} {c : Circuit}
    (h : b.circuits.get? id = some c) (now : Float) :
    (b.admission id now).val =
      (⟨(c.check now).state ≠ .opened, (c.check now).state⟩,
        { b with circuits := b.circuits.put id (c.check now) }) := by
  simp only [admission, h, Logged.val_bind, Logged.val_pure, turn]

theorem status_of_untracked {b : Breaker} {id : String} (h : b.circuits.get? id = none)
    (now : Float) : (b.status id now).val = (.untracked, b) := by
  simp only [status, h, Logged.val_pure]

theorem status_of_tracked {b : Breaker} {id : String} {c : Circuit}
    (h : b.circuits.get? id = some c) (now : Float) :
    (b.status id now).val =
      (.ofCircuit (c.check now), { b with circuits := b.circuits.put id (c.check now) }) := by
  simp only [status, h, Logged.val_bind, Logged.val_pure, turn]

theorem admission_breaker (b : Breaker) (id : String) (now : Float) :
    (b.admission id now).val.2 = b ∨
      ∃ c, b.circuits.get? id = some c ∧ c.state = .opened ∧
        (b.admission id now).val.2 =
          { b with circuits := b.circuits.put id { c with state := .halfOpen } } := by
  cases h : b.circuits.get? id with
  | none => exact Or.inl (by rw [admission_of_untracked h])
  | some c =>
      rw [admission_of_tracked h]
      by_cases hs : c.state = .opened ∧ c.rested now = true
      · exact Or.inr ⟨c, rfl, hs.1, by simp only [Circuit.check, if_pos hs]⟩
      · left
        simp only [Circuit.check, if_neg hs]
        rw [Roster.put_of_get? h]

theorem admission_of_refused {b : Breaker} {id : String} {now : Float}
    (h : (b.admission id now).val.1.allowed = false) :
    (b.admission id now).val = (⟨false, .opened⟩, b) := by
  cases hc : b.circuits.get? id with
  | none => simp [admission_of_untracked hc] at h
  | some c =>
      rw [admission_of_tracked hc] at h ⊢
      have ho : (c.check now).state = .opened := by simpa using h
      have hk : c.check now = c := by
        unfold Circuit.check at ho ⊢
        split
        · next hs => rw [if_pos hs] at ho; simp at ho
        · rfl
      rw [hk] at ho ⊢
      rw [Roster.put_of_get? hc, ho]
      rfl

end Breaker

end Switchboard
