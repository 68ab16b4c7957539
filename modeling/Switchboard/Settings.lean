import Switchboard.Fault
import Switchboard.Validation.Reader

namespace Switchboard

structure CircuitLimits where
  threshold : Nat
  resetMs : Nat
  threshold_pos : 1 ≤ threshold
  deriving DecidableEq, Repr

structure ProbePlan where
  intervalMs : Nat
  timeoutMs : Nat
  concurrency : Nat
  interval_pos : 1 ≤ intervalMs
  timeout_pos : 1 ≤ timeoutMs
  concurrency_pos : 1 ≤ concurrency
  deriving DecidableEq, Repr

structure SearchLimits where
  usual : Nat
  most : Nat
  usual_pos : 1 ≤ usual
  most_pos : 1 ≤ most
  deriving DecidableEq, Repr

structure Settings where
  circuit : CircuitLimits
  probe : ProbePlan
  search : SearchLimits
  logLevel : String
  deriving DecidableEq, Repr

namespace CircuitLimits

def standard : CircuitLimits := ⟨5, 30000, by decide⟩

def model : String := "CircuitBreakerConfig"

def read : Reader CircuitLimits :=
  .record (.record model) fun m =>
    (fun t r => ⟨t.1, r, t.2⟩)
      <$> Reader.defaulted m "failure_threshold" (.natural (.atLeast 1)) ⟨5, by decide⟩
      <*> Reader.defaulted m "reset_timeout_ms" .count 30000

def toJson (c : CircuitLimits) : Json :=
  .obj [("failure_threshold", .ofNat c.threshold), ("reset_timeout_ms", .ofNat c.resetMs)]

end CircuitLimits

namespace ProbePlan

def standard : ProbePlan := ⟨60000, 10000, 32, by decide, by decide, by decide⟩

def model : String := "HealthProbeConfig"

def read : Reader ProbePlan :=
  .record (.record model) fun m =>
    (fun i t c => ⟨i.1, t.1, c.1, i.2, t.2, c.2⟩)
      <$> Reader.defaulted m "interval_ms" (.natural (.above 0)) ⟨60000, by decide⟩
      <*> Reader.defaulted m "probe_timeout_ms" (.natural (.above 0)) ⟨10000, by decide⟩
      <*> Reader.defaulted m "max_concurrency" (.natural (.atLeast 1)) ⟨32, by decide⟩

def regular (p : ProbePlan) : Bool := (Number.ofInt? p.intervalMs).isSome

def timely (p : ProbePlan) : Bool := (Number.ofInt? p.timeoutMs).isSome

def toJson (p : ProbePlan) : Json :=
  .obj [("interval_ms", .ofNat p.intervalMs), ("probe_timeout_ms", .ofNat p.timeoutMs),
    ("max_concurrency", .ofNat p.concurrency)]

end ProbePlan

namespace SearchLimits

def standard : SearchLimits := ⟨10, 50, by decide, by decide⟩

def model : String := "SearchConfig"

def read : Reader SearchLimits :=
  .record (.record model) fun m =>
    (fun d t => ⟨d.1, t.1, d.2, t.2⟩)
      <$> Reader.defaulted m "default_top_k" (.natural (.atLeast 1)) ⟨10, by decide⟩
      <*> Reader.defaulted m "max_top_k" (.natural (.atLeast 1)) ⟨50, by decide⟩

def toJson (s : SearchLimits) : Json :=
  .obj [("default_top_k", .ofNat s.usual), ("max_top_k", .ofNat s.most)]

end SearchLimits

namespace Settings

def model : String := "GatewayConfig"

def read : Reader Settings :=
  .record (.record model) fun m =>
    Settings.mk
      <$> Reader.defaulted m "breaker" CircuitLimits.read .standard
      <*> Reader.defaulted m "probe" ProbePlan.read .standard
      <*> Reader.defaulted m "search" SearchLimits.read .standard
      <*> Reader.defaulted m "log_level" .text "INFO"

def toJson (s : Settings) : Json :=
  .obj [("breaker", s.circuit.toJson), ("probe", s.probe.toJson), ("search", s.search.toJson),
    ("log_level", .str s.logLevel)]

def misreadFault (text : String) : Number.Misread → Fault
  | .malformed => .unreadableInt text
  | .tooLong count => .tooManyDigits count

def readSetting (env : List (String × String)) (name : String) (usual : Int) :
    Except Fault Int :=
  match env.lookup name with
  | none => .ok usual
  | some text => (Number.readInt text).mapError (misreadFault text)

def checked {α : Type} (model : String) (c : Checked α) : Except Fault α :=
  (c.toExcept model).mapError .invalid

def ofEnvironment (env : List (String × String)) : Except Fault Settings := do
  let threshold ← readSetting env "TOOL_GATEWAY_FAILURE_THRESHOLD" 5
  let resetMs ← readSetting env "TOOL_GATEWAY_RESET_TIMEOUT_MS" 30000
  let circuit ← checked CircuitLimits.model
    (CircuitLimits.read (.obj [("failure_threshold", .whole threshold),
      ("reset_timeout_ms", .whole resetMs)]))
  let interval ← readSetting env "TOOL_GATEWAY_PROBE_INTERVAL_MS" 60000
  let probe ← checked ProbePlan.model (ProbePlan.read (.obj [("interval_ms", .whole interval)]))
  .ok ⟨circuit, probe, .standard, (env.lookup "TOOL_GATEWAY_LOG_LEVEL").getD "INFO"⟩

def logLevels : List String :=
  ["CRITICAL", "FATAL", "ERROR", "WARN", "WARNING", "INFO", "DEBUG", "NOTSET"]

def startUp (env : List (String × String)) : Except Fault Settings := do
  let s ← ofEnvironment env
  if logLevels.contains s.logLevel then .ok s else .error (.unknownLevel s.logLevel)

end Settings

end Switchboard
