import Switchboard.Dispatch

namespace Switchboard

inductive ProbeEnding where
  | answers (healthy : Bool)
  | raises (kind message : String)
  deriving DecidableEq, Repr

/-- How a probe goes when nothing cuts it short; without a delay it takes no time at all. -/
structure ProbeCourse where
  delayMs : Option Nat
  ending : ProbeEnding
  deriving DecidableEq, Repr

inductive Verdict where
  | healthy
  | unhealthy (message : String)
  | cancelled
  deriving DecidableEq, Repr

namespace ProbeEnding

def timedOut : String := "Probe timed out"

def verdict : ProbeEnding → Verdict
  | .answers true => .healthy
  | .answers false => .unhealthy "Probe returned unhealthy"
  | .raises kind message =>
      if kind = "TimeoutError" then .unhealthy timedOut
      else if kind = "CancelledError" then .cancelled
      else .unhealthy (if message = "" then "Probe failed" else message)

end ProbeEnding

namespace ProbeCourse

def atOnce (ending : ProbeEnding) : ProbeCourse := ⟨none, ending⟩

def within (c : ProbeCourse) (timeoutMs : Nat) : Nat × Verdict :=
  match c.delayMs with
  | none => (0, c.ending.verdict)
  | some d =>
      if d < timeoutMs then (d, c.ending.verdict) else (timeoutMs, .unhealthy ProbeEnding.timedOut)

end ProbeCourse

namespace Exchange

def enter (bound : Bool) (now : Float) (x : Exchange) (outcome : String × Verdict) :
    Logged Exchange :=
  match outcome.2 with
  | .healthy => do
      let breaker ← if bound then x.breaker.recordSuccess outcome.1 now else pure x.breaker
      pure { x with sightings := x.sightings.markHealthy outcome.1 now, breaker := breaker }
  | .unhealthy message => do
      Logged.tell [.probeFailed outcome.1 message]
      let breaker ← if bound then x.breaker.recordFailure outcome.1 now else pure x.breaker
      pure { x with
        sightings := x.sightings.markUnhealthy outcome.1 message now, breaker := breaker }
  | .cancelled => pure x

def enterAll (bound : Bool) (now : Float) (x : Exchange) (outcomes : List (String × Verdict)) :
    Logged Exchange :=
  outcomes.foldlM (enter bound now) x

def ownCheck (x : Exchange) (id : String) : ProbeCourse :=
  .atOnce (match x.registry.checkHealth id with
    | .ok healthy => .answers healthy
    | .error e => .raises "RuntimeError" e.message)

end Exchange

end Switchboard
