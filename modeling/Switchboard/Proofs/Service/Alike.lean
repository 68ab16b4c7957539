import Switchboard.Proofs.Dispatch.Alike
import Switchboard.Proofs.Probe.Entry
import Switchboard.Service.Basic

namespace Switchboard

namespace Exchange.Alike

variable {x x' : Exchange}

theorem enter {now : Float} (h : Alike now x x') (bound : Bool) (t : Float)
    (outcome : String × Verdict) :
    Alike now (x.enter bound t outcome).val (x'.enter bound t outcome).val := by
  obtain ⟨id, verdict⟩ := outcome
  cases verdict with
  | healthy =>
      have hs := congrArg (Sightings.markHealthy · id t) h.sightings
      cases bound with
      | true => exact ⟨h.registry, h.breaker.recordSuccess id t, hs, h.ledger⟩
      | false => exact ⟨h.registry, h.breaker, hs, h.ledger⟩
  | unhealthy message =>
      have hs := congrArg (Sightings.markUnhealthy · id message t) h.sightings
      cases bound with
      | true => exact ⟨h.registry, h.breaker.recordFailure id t, hs, h.ledger⟩
      | false => exact ⟨h.registry, h.breaker, hs, h.ledger⟩
  | cancelled => exact h

theorem entered {now : Float} (h : Alike now x x') (s : ProbeSetting)
    (outcomes : List (String × Verdict)) :
    Alike now (x.entered s outcomes) (x'.entered s outcomes) := by
  induction outcomes generalizing x x' with
  | nil => exact h
  | cons o outcomes ih => exact ih (h.enter s.bound s.now o)

theorem ownCheck {now : Float} (h : Alike now x x') : x.ownCheck = x'.ownCheck := by
  unfold Exchange.ownCheck
  rw [h.registry]

theorem probeAll {now : Float} (h : Alike now x x') (w : Watch) (course : String → ProbeCourse) :
    (w.probeAll course now x).val.1 = (w.probeAll course now x').val.1 ∧
      (w.probeAll course now x).val.2.2.1 = (w.probeAll course now x').val.2.2.1 ∧
      Alike now (w.probeAll course now x).val.2.2.2 (w.probeAll course now x').val.2.2.2 := by
  obtain ⟨outcomes, hw⟩ := w.probeAll_enters course now x'
  have hx' : (w.probeAll course now x').val.2.2.2 = x'.entered _ outcomes :=
    congrArg (·.2.2.2) (hw x')
  rw [hw x, hx']
  exact ⟨rfl, rfl, h.entered _ outcomes⟩

theorem pass {now : Float} (h : Alike now x x') (w : Watch) (course : String → ProbeCourse)
    (ms : Nat) :
    (w.pass course now x ms).val.2.1 = (w.pass course now x' ms).val.2.1 ∧
      Alike now (w.pass course now x ms).val.2.2 (w.pass course now x' ms).val.2.2 := by
  obtain ⟨outcomes, hw⟩ := w.pass_enters course now ms x'
  have hx' : (w.pass course now x' ms).val.2.2 = x'.entered _ outcomes :=
    congrArg (·.2.2) (hw x')
  rw [hw x, hx']
  exact ⟨rfl, h.entered _ outcomes⟩

end Exchange.Alike

namespace Gateway

structure Alike (now : Float) (g g' : Gateway) : Prop where
  exchange : g.exchange.Alike now g'.exchange
  directory : g.directory = g'.directory
  watch : g.watch = g'.watch

namespace Alike

variable {now later : Float} {m : Moment} {g g' g'' : Gateway}

theorem refl (now : Float) (g : Gateway) : Alike now g g := ⟨.refl now g.exchange, rfl, rfl⟩

theorem trans (h : Alike now g g') (h' : Alike now g' g'') : Alike now g g'' :=
  ⟨h.exchange.trans h'.exchange, h.directory.trans h'.directory, h.watch.trans h'.watch⟩

theorem after (h : Alike now g g') (hl : now ≤ later) : Alike later g g' :=
  ⟨h.exchange.after hl, h.directory, h.watch⟩

theorem setBreaker {b b' : Breaker} (h : Alike now g g') (hb : b.Alike now b') :
    Alike now (g.setBreaker b) (g'.setBreaker b') :=
  ⟨⟨h.exchange.registry, hb, h.exchange.sightings, h.exchange.ledger⟩, h.directory, h.watch⟩

theorem dispatch (h : Alike m.now g g') (c : Call) :
    (g.dispatch m c).val.1 = (g'.dispatch m c).val.1 ∧
      Alike m.now (g.dispatch m c).val.2 (g'.dispatch m c).val.2 := by
  obtain ⟨ha, hx⟩ := h.exchange.dispatch c
  exact ⟨ha, hx, h.directory, h.watch⟩

theorem call (h : Alike m.now g g') (c : AgentCall) (tick : Float) :
    (g.call m c tick).val.1 = (g'.call m c tick).val.1 ∧
      Alike m.now (g.call m c tick).val.2 (g'.call m c tick).val.2 := by
  unfold Gateway.call
  rw [← h.directory]
  cases g.directory.callerScopes c.agent with
  | error refusal => exact ⟨rfl, h⟩
  | ok scopes => exact h.dispatch _

theorem createAgent (h : Alike now g g') (m : Moment) (r : AgentRequest) :
    (g.createAgent m r).val.1 = (g'.createAgent m r).val.1 ∧
      Alike now (g.createAgent m r).val.2 (g'.createAgent m r).val.2 := by
  have hd : g.directory.create r (.once m.wall) = g'.directory.create r (.once m.wall) := by
    rw [h.directory]
  exact ⟨congrArg (·.val.1) hd, h.exchange, congrArg (·.val.2) hd, h.watch⟩

theorem probeAll (h : Alike m.now g g') (course : String → ProbeCourse) :
    (g.probeAll course m).val.1 = (g'.probeAll course m).val.1 ∧
      Alike m.now (g.probeAll course m).val.2.2 (g'.probeAll course m).val.2.2 := by
  obtain ⟨ha, hw, hx⟩ := h.exchange.probeAll g.watch course
  unfold Gateway.probeAll
  rw [← h.watch]
  exact ⟨ha, hx, h.directory, hw⟩

theorem pass (h : Alike m.now g g') (course : String → ProbeCourse) (ms : Nat) :
    Alike m.now (g.pass course m ms).val.2 (g'.pass course m ms).val.2 := by
  obtain ⟨hw, hx⟩ := h.exchange.pass g.watch course ms
  unfold Gateway.pass
  rw [← h.watch]
  exact ⟨hx, h.directory, hw⟩

end Alike

end Gateway

namespace Service

structure Alike (s s' : Service) : Prop where
  gateway : s.gateway.Alike s.moment.now s'.gateway
  limits : s.limits = s'.limits
  moment : s.moment = s'.moment

def Agree (p p' : Response × Service) : Prop := p.1 = p'.1 ∧ p.2.Alike p'.2

namespace Alike

variable {s s' : Service}

theorem tell (h : Alike s s') {r r' : Response} (hr : r = r') :
    Agree (s.tell r).val (s'.tell r').val :=
  ⟨hr, h⟩

theorem withGateway (h : Alike s s') {g g' : Gateway} (hg : g.Alike s.moment.now g') :
    Alike (s.withGateway g) (s'.withGateway g') :=
  ⟨hg, h.limits, h.moment⟩

theorem withBreaker (h : Alike s s') {b b' : Breaker} (hb : b.Alike s.moment.now b') :
    Alike (s.withBreaker b) (s'.withBreaker b') :=
  h.withGateway (h.gateway.setBreaker hb)

theorem withBody {α : Type} (h : Alike s s') (r : Request) (read : Reader α)
    {f f' : α → Logged (Response × Service)} (hf : ∀ a, Agree (f a).val (f' a).val) :
    Agree (s.withBody r read f).val (s'.withBody r read f').val := by
  unfold Service.withBody
  cases r.body.read? read with
  | none => exact h.tell rfl
  | some c =>
      cases c with
      | passed a => exact hf a
      | failed issues => exact h.tell rfl

theorem health (h : Alike s s') : s.health = s'.health := by
  unfold Service.health Service.exchange
  rw [h.gateway.exchange.registry, h.gateway.watch]

theorem survey {x x' : Exchange} {now : Float} (hx : x.Alike now x') (ids : List String)
    {b b' : Breaker} (hb : b.Alike now b') :
    (Service.survey x now ids b).val.1 = (Service.survey x' now ids b').val.1 ∧
      (Service.survey x now ids b).val.2.Alike now (Service.survey x' now ids b').val.2 := by
  induction ids generalizing b b' with
  | nil => exact ⟨rfl, hb⟩
  | cons id ids ih =>
      obtain ⟨hs, hb⟩ := hb.status id
      obtain ⟨hrest, hb⟩ := ih hb
      simp only [Service.survey, Logged.val_bind, Logged.val_pure]
      rw [hs, hrest, hx.sightings]
      exact ⟨rfl, hb⟩

theorem serversHealth (h : Alike s s') : Agree s.serversHealth.val s'.serversHealth.val := by
  have hx := h.gateway.exchange
  obtain ⟨hj, hb⟩ := survey hx s.exchange.registry.ids hx.breaker
  have hids : s'.exchange.registry.ids = s.exchange.registry.ids :=
    congrArg Registry.ids hx.registry.symm
  unfold Service.serversHealth
  rw [hids, ← h.moment]
  exact (h.withBreaker hb).tell (congrArg (fun js => Response.ok (items js)) hj)

theorem circuit (h : Alike s s') (id : String) : Agree (s.circuit id).val (s'.circuit id).val := by
  obtain ⟨hc, hb⟩ := h.gateway.exchange.breaker.status id
  unfold Service.circuit
  rw [← h.moment]
  exact (h.withBreaker hb).tell (congrArg (fun c => Response.ok c.toJson) hc)

theorem resetCircuit (h : Alike s s') (id : String) :
    Agree (s.resetCircuit id).val (s'.resetCircuit id).val := by
  obtain ⟨hc, hb⟩ := (h.gateway.exchange.breaker.reset id).status id
  unfold Service.resetCircuit
  rw [← h.moment]
  refine (h.withBreaker hb).tell ?_
  rw [show s'.exchange = s'.gateway.exchange from rfl, ← hc]
  rfl

theorem probe (h : Alike s s') : Agree s.probe.val s'.probe.val := by
  obtain ⟨hr, hg⟩ := h.gateway.probeAll s.exchange.ownCheck
  unfold Service.probe
  rw [← h.moment, show s'.exchange.ownCheck = s.exchange.ownCheck from h.gateway.exchange.ownCheck.symm]
  exact (h.withGateway hg).tell (congrArg (Response.ofExcept verdicts) hr)

theorem call (h : Alike s s') (c : AgentCall) (tick : Float) :
    Agree (s.call c tick).val (s'.call c tick).val := by
  obtain ⟨hr, hg⟩ := h.gateway.call c tick
  unfold Service.call
  rw [← h.moment]
  exact (h.withGateway hg).tell (congrArg (Response.ofExcept (callJson c)) hr)

theorem createAgent (h : Alike s s') (a : AgentRequest) :
    Agree (s.createAgent a).val (s'.createAgent a).val := by
  obtain ⟨hr, hg⟩ := h.gateway.createAgent s.moment a
  unfold Service.createAgent
  rw [← h.moment]
  exact (h.withGateway hg).tell (congrArg (Response.ofExcept Identity.toJson) hr)

theorem revoke (h : Alike s s') (id : String) : Agree (s.revoke id) (s'.revoke id) := by
  have hd := h.gateway.directory
  unfold Service.revoke
  rw [← hd]
  exact ⟨rfl, h.withGateway ⟨h.gateway.exchange, rfl, h.gateway.watch⟩⟩

theorem respond (h : Alike s s') (r : Request) (tick : Float) :
    Agree (s.respond r tick).val (s'.respond r tick).val := by
  unfold Service.respond
  cases Endpoint.locate r with
  | unknown => exact h.tell rfl
  | wrongMethod => exact h.tell rfl
  | found e =>
      cases e with
      | health => exact h.tell (congrArg Response.ok h.health)
      | serversHealth => exact h.serversHealth
      | probe => exact h.probe
      | circuit id => exact h.circuit id
      | resetCircuit id => exact h.resetCircuit id
      | discover =>
          refine h.withBody r _ fun q => h.tell ?_
          unfold Service.discover Service.exchange
          rw [h.gateway.exchange.registry, h.limits]
      | call => exact h.withBody r _ fun c => h.call c tick
      | createAgent => exact h.withBody r _ h.createAgent
      | agent id =>
          refine h.tell ?_
          unfold Service.agent
          rw [h.gateway.directory]
      | revoke id => exact h.revoke id
      | traces =>
          refine h.tell ?_
          unfold Service.traces Service.exchange
          rw [h.gateway.exchange.ledger]
      | trace id =>
          refine h.tell ?_
          unfold Service.trace Service.exchange
          rw [h.gateway.exchange.ledger]
      | metrics =>
          refine h.tell ?_
          unfold Service.exchange
          rw [h.gateway.exchange.ledger]

end Alike

end Service

end Switchboard
