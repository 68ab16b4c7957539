import Switchboard.Calendar
import Switchboard.Circuit

namespace Switchboard

structure Trace where
  backend : String
  tool : String
  payload : Json
  preview : String
  latencyMs : Number
  ok : Bool
  state : CircuitState
  errorKind : Option String

namespace Trace

def toJson (t : Trace) : Json :=
  .obj [("backend_id", .str t.backend), ("tool_name", .str t.tool), ("input_payload", t.payload),
    ("output_preview", .str t.preview), ("latency_ms", Json.ofNumber t.latencyMs),
    ("ok", .bool t.ok), ("circuit_state", .str t.state.name),
    ("error_kind", Json.ofOption .str t.errorKind)]

end Trace

structure TraceRecord where
  id : String
  time : Instant
  trace : Trace

namespace TraceRecord

def toJson (r : TraceRecord) : Json :=
  .obj [("trace_id", .str r.id), ("timestamp_utc", .str r.time.text), ("trace", r.trace.toJson)]

end TraceRecord

structure IdSupply where
  id : Nat → String
  inj : ∀ {m n}, id m = id n → m = n

def IdSupply.traces : IdSupply where
  id n := "trace-" ++ Number.intText n
  inj h := Number.intText_inj ((String.append_right_inj "trace-").1 h)

/-- The newest records up to the capacity, oldest first; `issued` counts all that were ever made. -/
structure Ledger where
  capacity : Option Nat
  supply : IdSupply
  records : List TraceRecord
  issued : Nat

structure Summary where
  total : Nat
  errorRate : Float
  rejections : Nat
  averageMs : Float
  p95Ms : Number

namespace Summary

def empty : Summary := ⟨0, 0.0, 0, 0.0, .real 0.0⟩

def toJson (s : Summary) : Json :=
  .obj [("total_calls", .ofNat s.total), ("error_rate", .real s.errorRate),
    ("circuit_rejections", .ofNat s.rejections), ("avg_latency_ms", .real s.averageMs),
    ("p95_latency_ms", Json.ofNumber s.p95Ms)]

end Summary

namespace Ledger

def start (supply : IdSupply) (capacity : Option Nat) : Ledger := ⟨capacity, supply, [], 0⟩

def standardCapacity : Nat := 1000

def checkedCapacity (n : Int) : Except Fault Nat :=
  if !Reader.fitsWord n then .error .capacityTooWide
  else if n < 0 then .error .negativeCapacity
  else .ok n.toNat

def newest {α : Type} (n : Nat) (l : List α) : List α := l.drop (l.length - n)

def retain {α : Type} (capacity : Option Nat) (l : List α) : List α :=
  match capacity with
  | none => l
  | some n => newest n l

def add (l : Ledger) (time : Instant) (trace : Trace) : TraceRecord × Ledger :=
  let record := ⟨l.supply.id (l.issued + 1), time, trace⟩
  (record, { l with
    records := retain l.capacity (l.records ++ [record])
    issued := l.issued + 1 })

def find (l : Ledger) (id : String) : Except Fault TraceRecord :=
  match l.records.find? (fun r => r.id = id) with
  | some r => .ok r
  | none => .error (.unknownTrace id)

/-- Counted from the end; a limit of zero keeps everything, and a negative one drops that many from
the front. -/
def recent (l : Ledger) (limit : Int) : List TraceRecord :=
  if limit > 0 then newest limit.toNat l.records else l.records.drop limit.natAbs

def sum : List Number → Except Number.Overflow Number :=
  List.foldlM Number.add (.whole 0)

/-- A count beyond all doubles makes the average fail before. -/
def p95Index (n : Nat) : Nat :=
  match Number.Binary.ofFloat? (Float.ofNat n * 0.95 - 1.0) with
  | some b => b.trunc.toNat
  | none => 0

def latencies (l : Ledger) : List Number :=
  (l.records.map (fun r => r.trace.latencyMs)).mergeSort Number.le

def errors (l : Ledger) : Nat := l.records.countP (fun r => !r.trace.ok)

def rejections (l : Ledger) : Nat :=
  l.records.countP (fun r => r.trace.errorKind = some RefusalKind.circuitOpen.name)

def summary (l : Ledger) : Except Fault Summary :=
  let total := l.records.length
  if total = 0 then .ok .empty
  else do
    let sorted := l.latencies
    let average ← (do Number.divNat (← sum sorted) total).mapError Fault.overflow
    .ok ⟨total, Number.ofRatio l.errors total, l.rejections, average,
      (sorted[p95Index total]?).getD (.real 0.0)⟩

end Ledger

end Switchboard
