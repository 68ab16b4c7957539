import Switchboard.Gateway

namespace Switchboard

inductive Operation where
  | advance (seconds : Number)
  | setNow (now : Number)
  | setWall (seconds : Number)
  | admission (id : String)
  | succeed (id : String)
  | fail (id : String) (times : Nat)
  | resetCircuit (id : String)
  | configure (id : String) (limits : Json)
  | circuitStatus (id : String)
  | retryAfter (id : String)
  | tracked
  | markHealthy (id : String)
  | markUnhealthy (id error : String)
  | seemsHealthy (id : String)
  | sighting (id : String)
  | sightings
  | registerBuiltin
  | register (backend : Backend)
  | unregister (id : String)
  | backendIds
  | catalogue
  | backend (id : String)
  | listen (name : String)
  | deliveries
  | bindIndex
  | index (entries : List Discovery.Entry)
  | indexSize
  | search (query : String) (top : Option Int)
  | dispatch (call : Call)
  | exported
  | callExported (name : String) (payload : Json) (tick : Float) (recorded : Bool)
  | addTrace (trace : Trace) (times : Nat)
  | trace (id : String)
  | recentTraces (limit : Int)
  | summary
  | createAgent (request : Json)
  | agent (id : String)
  | agents (tenant : String)
  | revoke (id : String)
  | storeAgent (id name tenant : String) (mandate : Json) (status : String)
  | setStatus (id status : String)
  | storedIds (tenant : String) (status : Option String)
  | watch (id : String)
  | unwatch (id : String)
  | watchInfo
  | script (courses : List (String × ProbeCourse))
  | startWatch
  | stopWatch
  | probeAll
  | probeOne (id : String)
  | passTime (ms : Nat)

structure SessionStart where
  now : Float
  limits : Option Json
  plan : Option Json
  bound : Bool
  capacity : Option Int
  ownLedger : Bool

structure Session where
  gateway : Gateway
  moment : Moment
  script : Option (List (String × ProbeCourse))

structure Answer where
  result : Except Fault Json
  report : Option WatchReport

namespace Answer

def of (j : Json) : Answer := ⟨.ok j, none⟩

def fault (e : Fault) : Answer := ⟨.error e, none⟩

def ofExcept {α : Type} (f : α → Json) : Except Fault α → Answer
  | .ok a => of (f a)
  | .error e => fault e

end Answer

namespace Session

def readOr {α : Type} (model : String) (r : Reader α) (usual : α) : Option Json → Except Fault α
  | none => .ok usual
  | some j => Settings.checked model (r j)

def start (s : SessionStart) : Except Fault Session := do
  let limits ← readOr CircuitLimits.model CircuitLimits.read .standard s.limits
  let capacity ← s.capacity.mapM Ledger.checkedCapacity
  let plan ← readOr ProbePlan.model ProbePlan.read .standard s.plan
  let capacity := if s.ownLedger then some Ledger.standardCapacity else capacity
  .ok ⟨.start limits plan s.bound capacity, ⟨s.now, .epoch⟩, none⟩

def course (s : Session) (id : String) : ProbeCourse :=
  match s.script with
  | some courses => (courses.lookup id).getD (.atOnce (.answers true))
  | none => s.gateway.exchange.ownCheck id

def registry (s : Session) : Registry := s.gateway.exchange.registry

def withRegistry (s : Session) (r : Registry) : Session :=
  { s with gateway := s.gateway.setRegistry r }

def withBreaker (s : Session) (b : Breaker) : Session :=
  { s with gateway := s.gateway.setBreaker b }

def withSightings (s : Session) (v : Sightings) : Session :=
  { s with gateway := s.gateway.setSightings v }

def withDirectory (s : Session) (d : Directory) : Session :=
  { s with gateway := { s.gateway with directory := d } }

def withWatch (s : Session) (w : Watch) : Session :=
  { s with gateway := { s.gateway with watch := w } }

def done (s : Session) : Logged (Answer × Session) := pure (.of .null, s)

def tell (s : Session) (j : Json) : Logged (Answer × Session) := pure (.of j, s)

def moved (s : Session) (now : Float) : Logged (Answer × Session) :=
  pure (.of (.real now), { s with moment := { s.moment with now := now } })

def repeated {α : Type} (f : α → Logged α) : Nat → α → Logged α
  | 0, a => pure a
  | n + 1, a => do repeated f n (← f a)

def clockStep (s : Session) (x : Except Number.Overflow Float) : Logged (Answer × Session) :=
  match x with
  | .ok now => s.moved now
  | .error e => pure (.fault (.overflow e), s)

def wallStep (s : Session) (seconds : Number) : Logged (Answer × Session) :=
  match (do Instant.epoch.shift (← Span.ofSeconds seconds) : Except Fault Instant) with
  | .error e => pure (.fault e, s)
  | .ok wall => pure (.of (.str wall.text), { s with moment := { s.moment with wall := wall } })

def configureStep (s : Session) (id : String) (limits : Json) : Logged (Answer × Session) :=
  match Settings.checked CircuitLimits.model (CircuitLimits.read limits) with
  | .error e => pure (.fault e, s)
  | .ok limits => (s.withBreaker (s.gateway.exchange.breaker.configure id limits)).done

def registerStep (s : Session) (b : Backend) : Logged (Answer × Session) :=
  match b.validated with
  | .error e => pure (.fault e, s)
  | .ok b => do
      let (r, registry) ← s.registry.register b
      pure (.ofExcept (fun _ => .null) r, s.withRegistry registry)

def dispatchStep (s : Session) (render : String → Json) (c : Call) :
    Logged (Answer × Session) := do
  let (r, g) ← s.gateway.dispatch s.moment c
  pure (.ofExcept render r, { s with gateway := g })

def output (text : String) : Json := .obj [("output", .str text)]

def callExportedStep (s : Session) (name : String) (payload : Json) (tick : Float)
    (recorded : Bool) : Logged (Answer × Session) :=
  match s.registry.exported.find? (fun t => t.name = name) with
  | none => s.done
  | some t => match Settings.checked t.tool.form.model (t.tool.form.read payload) with
      | .error e => pure (.fault e, s)
      | .ok args =>
          if recorded then
            s.tell (.obj [("output", .str "routed"),
              ("calls", .arr [.arr [.str t.backend, .str t.tool.name, .obj args]])])
          else s.dispatchStep output ⟨t.backend, t.tool.name, .obj args, none, tick⟩

def addTraces (t : Trace) (wall : Instant) : Nat → Ledger → Option TraceRecord × Ledger
  | 0, l => (none, l)
  | n + 1, l =>
      let (r, l) := l.add wall t
      let (last, l) := addTraces t wall n l
      (some (last.getD r), l)

def createAgentStep (s : Session) (request : Json) : Logged (Answer × Session) :=
  match Settings.checked AgentRequest.model
      (AgentRequest.read (.record AgentRequest.model) (.record Budget.model) request) with
  | .error e => pure (.fault e, s)
  | .ok request => do
      let (r, g) ← s.gateway.createAgent s.moment request
      pure (.ofExcept Identity.toJson r, { s with gateway := g })

def storeAgentStep (s : Session) (id name tenant : String) (mandate : Json) (status : String) :
    Answer × Session :=
  match Settings.checked Mandate.model (Mandate.read mandate) with
  | .error e => (.fault e, s)
  | .ok mandate =>
      let identity := ⟨id, name, tenant, mandate, status, none, s.moment.wall⟩
      match s.gateway.directory.store identity with
      | .error e => (.fault e, s)
      | .ok d => (.of identity.toJson, s.withDirectory d)

def verdicts (rs : List (String × Bool)) : Json := .obj (rs.map (fun r => (r.1, .bool r.2)))

def roundAnswer (report : WatchReport) : Except Fault (List (String × Bool)) → Answer
  | .ok rs => ⟨.ok (verdicts rs), some report⟩
  | .error .cancelled => ⟨.error .cancelled, some report⟩
  | .error e => .fault e

def probeAllStep (s : Session) : Logged (Answer × Session) := do
  let (r, report, g) ← s.gateway.probeAll s.course s.moment
  pure (roundAnswer report r, { s with gateway := g })

def probeOneStep (s : Session) (id : String) : Answer :=
  match s.registry.checkHealth id with
  | .ok healthy => ⟨.ok (.bool healthy), some ⟨0, [], s.gateway.watch.sleepers⟩⟩
  | .error e => .fault e

def watchInfo (w : Watch) : Json :=
  .obj [("size", .ofNat w.backends.length), ("backends", Json.strings w.listed),
    ("running", .bool w.running)]

def exportedJson (t : ExportedTool) : Json :=
  .obj [("name", .str t.name), ("description", .str t.description),
    ("args", Json.strings (t.tool.form.fields.mergeSort (fun a b => decide (a ≤ b))))]

def admissionJson (a : Admission) : Json :=
  .obj [("allowed", .bool a.allowed), ("state", .str a.state.name)]

def deliveryJson (d : Delivery) : Json := .arr [.str d.listener, .ofNat d.entries.length]

def apply (s : Session) : Operation → Logged (Answer × Session)
  | .advance seconds =>
      s.clockStep (seconds.toReal.map (fun x => s.moment.now + x))
  | .setNow now => s.clockStep now.toReal
  | .setWall seconds => s.wallStep seconds
  | .admission id => do
      let (a, b) ← s.gateway.exchange.breaker.admission id s.moment.now
      (s.withBreaker b).tell (admissionJson a)
  | .succeed id => do
      (s.withBreaker (← s.gateway.exchange.breaker.recordSuccess id s.moment.now)).done
  | .fail id times => do
      let b ← repeated (fun b => Breaker.recordFailure b id s.moment.now) times
        s.gateway.exchange.breaker
      (s.withBreaker b).done
  | .resetCircuit id => (s.withBreaker (s.gateway.exchange.breaker.reset id)).done
  | .configure id limits => s.configureStep id limits
  | .circuitStatus id => do
      let (status, b) ← s.gateway.exchange.breaker.status id s.moment.now
      (s.withBreaker b).tell status.toJson
  | .retryAfter id =>
      pure (.ofExcept .real (s.gateway.exchange.breaker.retryAfter id s.moment.now), s)
  | .tracked => s.tell (Json.strings s.gateway.exchange.breaker.tracked)
  | .markHealthy id =>
      (s.withSightings (s.gateway.exchange.sightings.markHealthy id s.moment.now)).done
  | .markUnhealthy id error =>
      (s.withSightings (s.gateway.exchange.sightings.markUnhealthy id error s.moment.now)).done
  | .seemsHealthy id =>
      s.tell (.bool (s.gateway.exchange.sightings.seemsHealthy id s.moment.now))
  | .sighting id => s.tell (Json.ofOption Sighting.toJson (s.gateway.exchange.sightings.get? id))
  | .sightings => s.tell s.gateway.exchange.sightings.toJson
  | .registerBuiltin => do
      let (r, registry) ← Builtin.register s.registry
      pure (.ofExcept Json.strings r, s.withRegistry registry)
  | .register b => s.registerStep b
  | .unregister id => do
      let (found, registry) ← s.registry.unregister id
      (s.withRegistry registry).tell (.bool found)
  | .backendIds => s.tell (Json.strings s.registry.ids)
  | .catalogue => s.tell (.arr (s.registry.catalogue.map Discovery.Entry.toJson))
  | .backend id => s.tell (Json.ofOption Backend.toJson (s.registry.backends.get? id))
  | .listen name => do (s.withRegistry (← s.registry.subscribe (.named name))).done
  | .deliveries =>
      let (ds, registry) := s.registry.collect
      (s.withRegistry registry).tell (.arr (ds.map deliveryJson))
  | .bindIndex => do (s.withRegistry (← s.registry.subscribe .index)).done
  | .index entries => do (s.withRegistry (← s.registry.reindex entries)).done
  | .indexSize => s.tell (.ofNat s.registry.index.size)
  | .search query top =>
      s.tell (.arr ((s.registry.index.search query top).map Discovery.Hit.toJson))
  | .dispatch call => s.dispatchStep .str call
  | .exported => s.tell (.arr (s.registry.exported.map exportedJson))
  | .callExported name payload tick recorded => s.callExportedStep name payload tick recorded
  | .addTrace trace times =>
      let (r, l) := addTraces trace s.moment.wall times s.gateway.exchange.ledger
      { s with gateway := s.gateway.setLedger l }.tell (Json.ofOption TraceRecord.toJson r)
  | .trace id => pure (.ofExcept TraceRecord.toJson (s.gateway.exchange.ledger.find id), s)
  | .recentTraces limit =>
      s.tell (.arr ((s.gateway.exchange.ledger.recent limit).map TraceRecord.toJson))
  | .summary => pure (.ofExcept Summary.toJson s.gateway.exchange.ledger.summary, s)
  | .createAgent request => s.createAgentStep request
  | .agent id => s.tell (Json.ofOption Identity.toJson (s.gateway.directory.get? id))
  | .agents tenant =>
      s.tell (.arr ((s.gateway.directory.list tenant (some Identity.active)).map Identity.toJson))
  | .revoke id =>
      let (found, d) := s.gateway.directory.revoke id
      (s.withDirectory d).tell (.bool found)
  | .storeAgent id name tenant mandate status =>
      pure (s.storeAgentStep id name tenant mandate status)
  | .setStatus id status =>
      let (i, d) := s.gateway.directory.setStatus id status
      (s.withDirectory d).tell (Json.ofOption Identity.toJson i)
  | .storedIds tenant status =>
      s.tell (Json.strings ((s.gateway.directory.list tenant status).map Identity.id))
  | .watch id => (s.withWatch (s.gateway.watch.add id)).done
  | .unwatch id => (s.withWatch (s.gateway.watch.remove id)).done
  | .watchInfo => s.tell (watchInfo s.gateway.watch)
  | .script courses => { s with script := some courses }.done
  | .startWatch => do
      let w ← s.gateway.watch.begin
      (s.withWatch w).tell (.bool w.running)
  | .stopWatch => do
      let w ← s.gateway.watch.stop
      (s.withWatch w).tell (.bool w.running)
  | .probeAll => s.probeAllStep
  | .probeOne id => pure (s.probeOneStep id, s)
  | .passTime ms => do
      let (report, g) ← s.gateway.pass s.course s.moment ms
      pure (⟨.ok .null, some report⟩, { s with gateway := g })

def run (s : Session) : List Operation → List (Answer × List String)
  | [] => []
  | op :: ops =>
      let r := s.apply op
      (r.val.1, r.lines) :: run r.val.2 ops

end Session

end Switchboard
