import Switchboard.Breaker
import Switchboard.Catalogue.Registry
import Switchboard.Ledger
import Switchboard.Scope
import Switchboard.Sighting

namespace Switchboard

structure Moment where
  now : Float
  wall : Instant

/-- `tick` is the time in seconds that the handler takes. -/
structure Call where
  backend : String
  tool : String
  payload : Json
  scopes : Option (List String)
  tick : Float

structure Exchange where
  registry : Registry
  breaker : Breaker
  sightings : Sightings
  ledger : Ledger

namespace Call

def latency (c : Call) : Number := .real (c.tick * 1000.0)

def previewLength : Nat := 320

def preview (output : String) : String := String.ofList (output.toList.take previewLength)

def trace (c : Call) (output : String) (latency : Number) (state : CircuitState)
    (error : Option RefusalKind) : Trace :=
  ⟨c.backend, c.tool, c.payload, preview output, latency, error.isNone, state,
    error.map RefusalKind.name⟩

end Call

namespace Exchange

def start (limits : CircuitLimits) (ledger : Ledger) : Exchange :=
  ⟨.empty, .start limits, .empty, ledger⟩

def addTrace (x : Exchange) (m : Moment) (t : Trace) : Exchange :=
  { x with ledger := (x.ledger.add m.wall t).2 }

def resolve (x : Exchange) (c : Call) : Except Refusal Tool :=
  match x.registry.backends.get? c.backend with
  | none => .error (.of .notFound ("Backend not found: " ++ c.backend))
  | some b => match b.tool? c.tool with
      | none => .error (.of .notFound ("Unknown tool: " ++ c.backend ++ "/" ++ c.tool))
      | some tool =>
          if Scope.permits c.scopes c.backend c.tool then .ok tool
          else .error (.of .forbidden ("Scopes do not allow " ++ c.backend ++ "/" ++ c.tool))

def refuseOpen (x : Exchange) (m : Moment) (c : Call) : Except Fault String × Exchange :=
  let traced := x.addTrace m (c.trace "" (.real 0.0) .opened (some .circuitOpen))
  match x.breaker.retryAfter c.backend m.now with
  | .error e => (.error e, traced)
  | .ok seconds =>
      let refusal := Refusal.of .circuitOpen ("Circuit open for backend " ++ c.backend)
      (.error (.refused { refusal with retryAfter := some (.real seconds) }), traced)

def blameCaller (x : Exchange) (m : Moment) (c : Call) (state : CircuitState) (r : Report) :
    Except Fault String × Exchange :=
  (.error (.refused (.of .invalidArguments r.text)),
    x.addTrace m (c.trace "" c.latency state (some .invalidArguments)))

def blameBackend (x : Exchange) (m : Moment) (c : Call) (state : CircuitState)
    (kind message : String) : Logged (Except Fault String × Exchange) := do
  Logged.tell [.toolFailed c.backend c.tool message]
  let breaker ← x.breaker.recordFailure c.backend m.now
  let x := { x with
    breaker := breaker
    sightings := x.sightings.markUnhealthy c.backend (Outcome.blame kind message) m.now }
  let x := x.addTrace m (c.trace "" c.latency state (some .backendFailure))
  pure (.error (.refused (.of .backendFailure
    ("Tool call failed (" ++ c.backend ++ "/" ++ c.tool ++ "): " ++ message))), x)

def creditBackend (x : Exchange) (m : Moment) (c : Call) : Logged Exchange := do
  let breaker ← x.breaker.recordSuccess c.backend m.now
  pure { x with
    breaker := breaker
    sightings := x.sightings.markHealthy c.backend m.now }

def succeed (x : Exchange) (m : Moment) (c : Call) (state : CircuitState) (output : String) :
    Logged (Except Fault String × Exchange) := do
  let x ← x.creditBackend m c
  pure (.ok output, x.addTrace m (c.trace output c.latency state none))

/-- The backend has answered, but of a value that is no text no trace can be kept. -/
def blameAnswer (x : Exchange) (m : Moment) (c : Call) (kind : String) :
    Logged (Except Fault String × Exchange) := do
  let x ← x.creditBackend m c
  pure (.error (.uncuttable kind), x)

def settle (x : Exchange) (m : Moment) (c : Call) (state : CircuitState) :
    Outcome → Logged (Except Fault String × Exchange)
  | .returned output => x.succeed m c state output
  | .returnedOther kind => x.blameAnswer m c kind
  | .rejected report => pure (x.blameCaller m c state report)
  | .raised kind message => x.blameBackend m c state kind message

section Use

variable {μ : Type → Type} [Monad μ]

def invoke (use : Tool → Args → μ Reaction) (x : Exchange) (m : Moment) (c : Call) (tool : Tool)
    (state : CircuitState) : μ (Logged (Except Fault String × Exchange)) :=
  match tool.form.read c.payload with
  | .failed issues => pure (pure (x.blameCaller m c state ⟨tool.form.model, issues⟩))
  | .passed args => do
      let reaction ← use tool args
      let x := { x with registry := x.registry.setHealth c.backend reaction.health }
      pure (x.settle m c state reaction.outcome)

def dispatchWith (use : Tool → Args → μ Reaction) (x : Exchange) (m : Moment) (c : Call) :
    μ (Logged (Except Fault String × Exchange)) :=
  match x.resolve c with
  | .error refusal => pure (pure (.error (.refused refusal), x))
  | .ok tool =>
      let check := x.breaker.admission c.backend m.now
      let x := { x with breaker := check.val.2 }
      if check.val.1.allowed then do
        let settled ← x.invoke use m c tool check.val.1.state
        pure (do
          let _ ← check
          Logged.tell (if x.sightings.seemsHealthy c.backend m.now then []
            else [.seenUnhealthy c.backend])
          settled)
      else pure (do
        let _ ← check
        pure (x.refuseOpen m c))

end Use

def dispatch (x : Exchange) (m : Moment) (c : Call) : Logged (Except Fault String × Exchange) :=
  Id.run (x.dispatchWith (fun tool args => pure (tool.handler args)) m c)

end Exchange

end Switchboard
