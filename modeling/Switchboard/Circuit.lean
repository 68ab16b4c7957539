import Switchboard.Notice
import Switchboard.Settings

namespace Switchboard

inductive CircuitState where
  | closed
  | opened
  | halfOpen
  deriving DecidableEq, Repr

namespace CircuitState

def all : List CircuitState := [.closed, .opened, .halfOpen]

def name : CircuitState → String
  | .closed => "closed"
  | .opened => "open"
  | .halfOpen => "half-open"

def ofName? (s : String) : Option CircuitState := all.find? (fun c => c.name = s)

end CircuitState

structure Circuit where
  limits : CircuitLimits
  state : CircuitState
  failures : Nat
  lastFailure : Option Float
  lastSuccess : Option Float

namespace Circuit

def fresh (limits : CircuitLimits) : Circuit := ⟨limits, .closed, 0, none, none⟩

def elapsed (c : Circuit) (now : Float) : Float :=
  match c.lastFailure with
  | some t => now - t
  | none => Number.infinity

def rested (c : Circuit) (now : Float) : Bool :=
  Number.leFloat c.limits.resetMs (c.elapsed now * 1000.0)

def check (c : Circuit) (now : Float) : Circuit :=
  if c.state = .opened ∧ c.rested now = true then { c with state := .halfOpen } else c

def succeed (c : Circuit) (now : Float) : Circuit :=
  { c with state := .closed, failures := 0, lastSuccess := some now }

def fail (c : Circuit) (now : Float) : Circuit :=
  { c with
    failures := c.failures + 1
    lastFailure := some now
    state := match c.state with
      | .halfOpen => .opened
      | .closed => if c.limits.threshold ≤ c.failures + 1 then .opened else .closed
      | .opened => .opened }

def turn (backend : String) (before after : Circuit) : List Notice :=
  match before.state, after.state with
  | .closed, .opened => [.circuitOpened backend after.failures]
  | .halfOpen, .opened => [.circuitReopened backend]
  | .opened, .halfOpen => [.circuitHalfOpen backend]
  | .opened, .closed => [.circuitClosed backend]
  | .halfOpen, .closed => [.circuitClosed backend]
  | _, _ => []

def retryAfter (c : Circuit) (now : Float) : Except Fault Float :=
  if c.state = .opened then
    match Number.ofInt? c.limits.resetMs with
    | none => .error (.overflow .operand)
    | some ms =>
        let remaining := ms / 1000.0 - c.elapsed now
        .ok (if remaining > 0.0 then remaining else 0.0)
  else .ok 0.0

theorem check_limits (c : Circuit) (now : Float) : (c.check now).limits = c.limits := by
  unfold check; split <;> rfl

theorem check_failures (c : Circuit) (now : Float) : (c.check now).failures = c.failures := by
  unfold check; split <;> rfl

theorem check_lastFailure (c : Circuit) (now : Float) :
    (c.check now).lastFailure = c.lastFailure := by
  unfold check; split <;> rfl

theorem check_of_not_opened {c : Circuit} (h : c.state ≠ .opened) (now : Float) :
    c.check now = c := by
  simp [check, h]

theorem check_state_eq_closed_iff (c : Circuit) (now : Float) :
    (c.check now).state = .closed ↔ c.state = .closed := by
  unfold check
  split
  · next h => simp [h.1]
  · rfl

end Circuit

end Switchboard
