import Switchboard.AgentCall
import Switchboard.Discovery.Inquiry
import Switchboard.Service.Endpoint

namespace Switchboard

structure Service where
  gateway : Gateway
  limits : SearchLimits
  moment : Moment

namespace Service

def startMoment : Moment := ⟨1000.0, .epoch⟩

def withBuiltins (g : Gateway) : Logged (Except Fault Gateway) := do
  let registry ← g.exchange.registry.subscribe .index
  let (ids, registry) ← Builtin.register registry
  pure (ids.map (fun ids =>
    { g.setRegistry registry with watch := ids.foldl Watch.add g.watch }))

def start (env : List (String × String)) (watching : Bool) : Except Fault Service := do
  let settings ← Settings.startUp env
  let g ← (withBuiltins
    (.start settings.circuit settings.probe true (some Ledger.standardCapacity))).val
  .ok ⟨if watching then { g with watch := g.watch.begin.val } else g, settings.search, startMoment⟩

def exchange (s : Service) : Exchange := s.gateway.exchange

def withGateway (s : Service) (g : Gateway) : Service := { s with gateway := g }

def withBreaker (s : Service) (b : Breaker) : Service := s.withGateway (s.gateway.setBreaker b)

def tell (s : Service) (r : Response) : Logged (Response × Service) := pure (r, s)

def withBody {α : Type} (s : Service) (r : Request) (read : Reader α)
    (f : α → Logged (Response × Service)) : Logged (Response × Service) :=
  match r.body.read? read with
  | none => s.tell .unparsed
  | some (.passed a) => f a
  | some (.failed issues) => s.tell (.ofIssues issues)

def health (s : Service) : Json :=
  .obj [("status", .str "ok"), ("backends", .ofNat s.exchange.registry.ids.length),
    ("tools_indexed", .ofNat s.exchange.registry.index.size),
    ("probe_running", .bool s.gateway.watch.running)]

def serverJson (id : String) (healthy : Bool) (seen : Option Sighting) (c : CircuitStatus) : Json :=
  .obj [("backend_id", .str id), ("healthy", .bool healthy),
    ("last_checked_at", Json.ofOption (fun s => .real s.checkedAt) seen),
    ("last_error", Json.ofOption .str (seen.bind Sighting.error)),
    ("circuit", .str c.state.name), ("failures", .ofNat c.failures)]

def survey (x : Exchange) (now : Float) : List String → Breaker → Logged (List Json × Breaker)
  | [], b => pure ([], b)
  | id :: ids, b => do
      let (c, b) ← b.status id now
      let (rest, b) ← survey x now ids b
      pure (serverJson id (x.sightings.seemsHealthy id now) (x.sightings.get? id) c :: rest, b)

def items (js : List Json) : Json := .obj [("items", .arr js)]

def serversHealth (s : Service) : Logged (Response × Service) := do
  let (js, b) ← survey s.exchange s.moment.now s.exchange.registry.ids s.exchange.breaker
  (s.withBreaker b).tell (.ok (items js))

def verdicts (rs : List (String × Bool)) : Json :=
  .obj [("results", .obj (rs.map (fun r => (r.1, .bool r.2))))]

def probe (s : Service) : Logged (Response × Service) := do
  let (r, _, g) ← s.gateway.probeAll s.exchange.ownCheck s.moment
  (s.withGateway g).tell (.ofExcept verdicts r)

def circuit (s : Service) (id : String) : Logged (Response × Service) := do
  let (c, b) ← s.exchange.breaker.status id s.moment.now
  (s.withBreaker b).tell (.ok c.toJson)

def resetCircuit (s : Service) (id : String) : Logged (Response × Service) := do
  let (c, b) ← (s.exchange.breaker.reset id).status id s.moment.now
  (s.withBreaker b).tell (.ok (.obj [("backend_id", .str id), ("state", .str c.state.name)]))

def discover (s : Service) (q : Discovery.Inquiry) : Response :=
  .ok (.obj [("results",
    .arr ((s.exchange.registry.index.discover s.limits q).map Discovery.Hit.toJson))])

def callJson (c : AgentCall) (output : String) : Json :=
  .obj [("backend_id", .str c.backend), ("tool_name", .str c.tool), ("output", .str output)]

def call (s : Service) (c : AgentCall) (tick : Float) : Logged (Response × Service) := do
  let (r, g) ← s.gateway.call s.moment c tick
  (s.withGateway g).tell (.ofExcept (callJson c) r)

def createAgent (s : Service) (a : AgentRequest) : Logged (Response × Service) := do
  let (r, g) ← s.gateway.createAgent s.moment a
  (s.withGateway g).tell (.ofExcept Identity.toJson r)

def noAgent (id : String) : Response := .notFound ("Agent not found: " ++ id)

def agent (s : Service) (id : String) : Response :=
  match s.gateway.directory.get? id with
  | some i => .ok i.toJson
  | none => noAgent id

def revoke (s : Service) (id : String) : Response × Service :=
  let (found, d) := s.gateway.directory.revoke id
  (if found then .ok (.obj [("identity_id", .str id), ("status", .str Identity.revoked)])
    else noAgent id,
    s.withGateway { s.gateway with directory := d })

def traces (s : Service) (r : Request) : Response :=
  match r.whole "limit" 20 with
  | .passed limit => .ok (items ((s.exchange.ledger.recent limit).map TraceRecord.toJson))
  | .failed issues => .ofIssues issues

def trace (s : Service) (id : String) : Response :=
  match s.exchange.ledger.find id with
  | .ok r => .ok r.toJson
  | .error _ => .notFound ("Trace not found: " ++ id)

def answer (s : Service) (r : Request) (tick : Float) : Endpoint → Logged (Response × Service)
  | .health => s.tell (.ok s.health)
  | .serversHealth => s.serversHealth
  | .probe => s.probe
  | .circuit id => s.circuit id
  | .resetCircuit id => s.resetCircuit id
  | .discover => s.withBody r (Discovery.Inquiry.read .attributes) fun q => s.tell (s.discover q)
  | .call => s.withBody r (AgentCall.read .attributes) fun c => s.call c tick
  | .createAgent => s.withBody r (AgentRequest.read .attributes .attributes) s.createAgent
  | .agent id => s.tell (s.agent id)
  | .revoke id => pure (s.revoke id)
  | .traces => s.tell (s.traces r)
  | .trace id => s.tell (s.trace id)
  | .metrics => s.tell (.ofExcept Summary.toJson s.exchange.ledger.summary)

def respond (s : Service) (r : Request) (tick : Float) : Logged (Response × Service) :=
  match Endpoint.locate r with
  | .unknown => s.tell (.notFound "Not Found")
  | .wrongMethod => s.tell .wrongMethod
  | .found e => s.answer r tick e

structure Arrival where
  request : Request
  advance : Float
  tick : Float

def serve (s : Service) (a : Arrival) : Logged (Response × Service) := do
  let s := { s with moment := { s.moment with now := s.moment.now + a.advance } }
  let (r, s) ← s.respond a.request a.tick
  s.tell (if a.request.method = .head then r.silent else r)

def run (s : Service) : List Arrival → List (Response × List String)
  | [] => []
  | a :: as =>
      let r := s.serve a
      (r.val.1, r.lines) :: run r.val.2 as

end Service

end Switchboard
