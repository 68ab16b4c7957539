import Mathlib.Data.List.Permutation
import Switchboard.Proofs.Service.Retry
import Switchboard.Proofs.Service.Wiring

namespace Switchboard

theorem RefusalKind.status_ne_ok (kind : RefusalKind) : kind.status ≠ 200 := by
  cases kind <;> decide

namespace Exchange

variable {x : Exchange} {id : String}

theorem prompt_ownCheck (x : Exchange) (id : String) : (x.ownCheck id).delayMs = none := rfl

theorem uncancelled_ownCheck (x : Exchange) (id : String) : (x.ownCheck id).Uncancelled := by
  intro message h
  rw [ownCheck] at h
  cases hcheck : x.registry.checkHealth id with
  | ok healthy =>
      rw [hcheck] at h
      cases h
  | error e =>
      rw [hcheck] at h
      exact absurd (ProbeEnding.raises.inj h).1 (by decide)

theorem succeeds_ownCheck {healthy : Bool} (h : x.registry.checkHealth id = .ok healthy)
    (timeoutMs : Nat) : (x.ownCheck id).succeeds timeoutMs = healthy := by
  rw [ownCheck, h, ProbeCourse.succeeds]
  cases healthy <;> rfl

end Exchange

namespace Gateway

variable {g : Gateway} {m : Moment} {c : AgentCall} {tick : Float}

theorem call_heeds {healthy : Bool} (h : g.exchange.registry.Equipped healthy) (m : Moment)
    (c : AgentCall) (tick : Float) :
    c.Heeded healthy (g.call m c tick).val.1 (g.call m c tick).val.2.exchange.registry := by
  cases hscopes : g.directory.callerScopes c.agent with
  | error refusal =>
      rw [call_of_error hscopes]
      exact .of_error _ h
  | ok scopes =>
      rw [call_of_ok hscopes]
      exact Exchange.dispatch_heeds h m c scopes tick

theorem watch_call (g : Gateway) (m : Moment) (c : AgentCall) (tick : Float) :
    (g.call m c tick).val.2.watch = g.watch := by
  cases hscopes : g.directory.callerScopes c.agent with
  | error refusal =>
      rw [call_of_error hscopes]
      rfl
  | ok scopes =>
      rw [call_of_ok hscopes]
      rfl

theorem status_of_call {refusal : Refusal}
    (h : (g.call m c tick).val.1 = .error (.refused refusal)) : refusal.status ≠ 200 := by
  cases hscopes : g.directory.callerScopes c.agent with
  | error found =>
      rw [call_of_error hscopes] at h
      cases h
      obtain ⟨kind, message, -, rfl⟩ := Directory.refusal_of_callerScopes hscopes
      exact kind.status_ne_ok
  | ok scopes =>
      rw [call_of_ok hscopes] at h
      rcases Exchange.refusal_of_dispatch h with ⟨kind, message, -, rfl⟩ | ⟨-, wait, -, rfl⟩
      · exact kind.status_ne_ok
      · exact RefusalKind.circuitOpen.status_ne_ok

end Gateway

namespace Service

variable {s : Service} {healthy : Bool} {q : Request} {tick : Float}

def Request.asks? (q : Request) : Option Bool :=
  match Endpoint.locate q, q.body.read? (AgentCall.read .attributes) with
  | .found .call, some (.passed c) => c.asks?
  | _, _ => none

def Visit.tells? (v : Visit) (answer : Option Response) : Option Bool :=
  match v.happening, answer with
  | .request q _, some r => if r.status = 200 then q.asks? else none
  | _, _ => none

def told (s : Service) (vs : List Visit) : List Bool :=
  (vs.zip (s.answers vs)).filterMap fun e => e.1.tells? e.2

theorem Response.status_ofRefusal (refusal : Refusal) : (Response.ofRefusal refusal).status = 500 ∨
    (Response.ofRefusal refusal).status = refusal.status := by
  have hdetail : (Response.detail refusal.status refusal.body).status = 500 ∨
      (Response.detail refusal.status refusal.body).status = refusal.status := by
    rw [Response.detail]
    split
    · exact .inr rfl
    · exact .inl rfl
  rw [Response.ofRefusal]
  split
  · exact hdetail
  · split
    · exact hdetail
    · exact .inl rfl

theorem Response.status_ofFault {e : Fault}
    (h : ∀ refusal, e = .refused refusal → refusal.status ≠ 200) :
    (Response.ofFault e).status ≠ 200 := by
  cases e with
  | refused refusal =>
      change (Response.ofRefusal refusal).status ≠ 200
      rcases Response.status_ofRefusal refusal with hs | hs
      · simp [hs]
      · exact hs ▸ h refusal rfl
  | _ => exact show (500 : Int) ≠ 200 by decide

theorem status_of_asking {g : Gateway} {m : Moment} {c : AgentCall} {asked : Bool}
    (h : g.exchange.registry.Equipped healthy) (hasked : c.asks? = some asked) (tick : Float) :
    (Response.ofExcept (callJson c) (g.call m c tick).val.1).status = 200 ↔
      (g.call m c tick).val.1.isOk = true := by
  obtain ⟨hbackend, htool⟩ := AgentCall.target_of_asks hasked
  have htold := (Gateway.call_heeds h m c tick).told asked
  cases hanswer : (g.call m c tick).val.1 with
  | ok output =>
      refine iff_of_true ?_ rfl
      rw [htold output hasked hanswer]
      change (Response.ok (callJson c _)).status = 200
      rw [callJson, hbackend, htool]
      cases asked <;> decide
  | error e =>
      refine iff_of_false (fun hstatus => ?_) Bool.false_ne_true
      refine Response.status_ofFault (fun refusal he => ?_) hstatus
      exact Gateway.status_of_call (he ▸ hanswer)

theorem wired_call (h : s.Wired healthy) {c : AgentCall}
    (hq : q.Submits .call (AgentCall.read .attributes) c) (tick : Float) :
    (s.respond q tick).val.2.Wired
      ((if (s.respond q tick).val.1.status = 200 then c.asks? else none).getD healthy) := by
  have hafter : (s.respond q tick).val.2 =
      s.withGateway (s.gateway.call s.moment c tick).val.2 := by
    rw [respond, hq.1]
    simp only [answer, withBody, hq.2]
    rfl
  have hheeded := (Gateway.call_heeds h.equipped s.moment c tick).equipped
  have hwatch := s.gateway.watch_call s.moment c tick
  have hsame : (if (s.respond q tick).val.1.status = 200 then c.asks? else none) =
      if (s.gateway.call s.moment c tick).val.1.isOk then c.asks? else none := by
    cases hasked : c.asks? with
    | none => simp only [ite_self]
    | some asked =>
        rw [respond_call hq]
        exact if_congr (status_of_asking h.equipped hasked tick) rfl rfl
  rw [hafter, hsame]
  exact ⟨hheeded, hwatch.symm ▸ h.ready⟩

theorem probes_keep_registry (plan : ProbePlan) (bound : Bool) (now : Float)
    (course : String → ProbeCourse) (r : Registry) :
    ProbeSetting.Keeps ⟨plan, bound, now, course⟩ (fun x => x.registry = r) fun _ => True where
  course _ := trivial
  enter x o hx _ := (x.registry_enter bound now o).trans hx

theorem probe_round (h : s.Wired healthy) : ∃ rs,
    (s.gateway.probeAll s.exchange.ownCheck s.moment).val.1 = .ok rs ∧
      (s.gateway.probeAll s.exchange.ownCheck s.moment).val.2.2.watch = s.gateway.watch ∧
      s.gateway.watch.Exact s.exchange.ownCheck s.moment.now s.exchange rs
        (s.gateway.probeAll s.exchange.ownCheck s.moment).val.2.2.exchange := by
  have hw := h.ready
  have hbackends := hw.backends
  exact Watch.probeAll_of_prompt (w := s.gateway.watch) s.exchange.prompt_ownCheck
    (by rw [hbackends]; decide) hw.alone (fun id _ => s.exchange.uncancelled_ownCheck id)
    (by rw [hbackends]; decide) hw.timely s.moment.now s.exchange

theorem wired_probe (h : s.Wired healthy) :
    (s.withGateway (s.gateway.probeAll s.exchange.ownCheck s.moment).val.2.2).Wired healthy := by
  obtain ⟨rs, -, hwatch, -⟩ := probe_round h
  have hregistry := (s.gateway.watch.gives_everything.probeAll s.exchange.ownCheck s.moment.now
    (probes_keep_registry _ _ _ _ s.exchange.registry) rfl).2.2
  exact ⟨hregistry.symm ▸ h.equipped, hwatch.symm ▸ h.ready⟩

theorem wired_pass (h : s.Wired healthy) (ms : Nat) :
    (s.withGateway (s.gateway.pass s.exchange.ownCheck s.moment ms).val.2).Wired healthy := by
  have hcalm := Watch.calm_pass (w := s.gateway.watch) s.exchange.prompt_ownCheck
    s.exchange.uncancelled_ownCheck h.ready.alone s.moment.now s.exchange ms
  have hregistry := (s.gateway.watch.gives_everything.pass s.exchange.ownCheck s.moment.now
    (probes_keep_registry _ _ _ _ s.exchange.registry) rfl ms).2.2
  exact ⟨hregistry.symm ▸ h.equipped, h.ready.calm hcalm⟩

theorem wired_quiet (h : s.Wired healthy) (hq : Endpoint.locate q ≠ .found .call) (tick : Float) :
    (s.respond q tick).val.2.Wired healthy := by
  rw [respond]
  cases hlocate : Endpoint.locate q with
  | unknown => exact h
  | wrongMethod => exact h
  | found e =>
      cases e with
      | call => exact absurd hlocate hq
      | probe => exact wired_probe h
      | discover => exact withBody_ends (P := Wired healthy) q _ h fun _ => h
      | createAgent =>
          exact withBody_ends (P := Wired healthy) q _ h fun _ => ⟨h.equipped, h.ready⟩
      | _ => exact ⟨h.equipped, h.ready⟩

theorem wired_unread (h : s.Wired healthy) (hq : Endpoint.locate q = .found .call)
    (hbody : ¬ ∃ c, q.body.read? (AgentCall.read .attributes) = some (.passed c)) (tick : Float) :
    (s.respond q tick).val.2.Wired healthy := by
  rw [respond, hq]
  change (s.withBody q (AgentCall.read .attributes) _).val.2.Wired healthy
  rw [withBody]
  split
  · exact h
  · next c hc => exact absurd ⟨c, hc⟩ hbody
  · exact h

theorem asks?_of_not_submits
    (hq : ¬ ∃ c, q.Submits .call (AgentCall.read .attributes) c) : q.asks? = none := by
  rw [Request.asks?]
  split
  · next c hlocate hc => exact absurd ⟨c, hlocate, hc⟩ hq
  · rfl

theorem respond_wired (h : s.Wired healthy) (q : Request) (tick : Float) :
    (s.respond q tick).val.2.Wired
      ((if (s.respond q tick).val.1.status = 200 then q.asks? else none).getD healthy) := by
  by_cases hq : ∃ c, q.Submits .call (AgentCall.read .attributes) c
  · obtain ⟨c, hq⟩ := hq
    have hasks : q.asks? = c.asks? := by rw [Request.asks?, hq.1, hq.2]
    rw [hasks]
    exact wired_call h hq tick
  · rw [asks?_of_not_submits hq, ite_self]
    by_cases hlocate : Endpoint.locate q = .found .call
    · exact wired_unread h hlocate (fun ⟨c, hc⟩ => hq ⟨c, hlocate, hc⟩) tick
    · exact wired_quiet h hlocate tick

theorem visit_wired (h : s.Wired healthy) (v : Visit) :
    (s.visit v).2.Wired ((v.tells? (s.visit v).1).getD healthy) := by
  have hhere : (s.atMoment v.moment).Wired healthy := ⟨h.equipped, h.ready⟩
  unfold visit Visit.tells?
  cases v.happening with
  | request q tick =>
      have hnext := respond_wired hhere q tick
      dsimp only
      split
      · exact hnext
      · exact hnext
  | pass ms => exact wired_pass hhere ms

theorem after_wired (h : s.Wired healthy) (vs : List Visit) :
    (s.after vs).Wired ((s.told vs).getLast?.getD healthy) := by
  induction vs generalizing s healthy with
  | nil => exact h
  | cons v vs ih =>
      have hnext := ih (visit_wired h v)
      have htold : s.told (v :: vs) =
          (v.tells? (s.visit v).1).toList ++ (s.visit v).2.told vs := by
        rw [told, answers, List.zip_cons_cons, List.filterMap_cons]
        cases v.tells? (s.visit v).1 <;> rfl
      have hlast : (s.told (v :: vs)).getLast?.getD healthy =
          ((s.visit v).2.told vs).getLast?.getD ((v.tells? (s.visit v).1).getD healthy) := by
        rw [htold, List.getLast?_append]
        cases ((s.visit v).2.told vs).getLast? with
        | none => cases v.tells? (s.visit v).1 <;> rfl
        | some last => rfl
      rw [hlast]
      exact hnext

theorem results_perm (h : s.Wired healthy) {rs : List (String × Bool)} {y : Exchange}
    (hexact : s.gateway.watch.Exact s.exchange.ownCheck s.moment.now s.exchange rs y) :
    rs.Perm [(Builtin.echoId, true), (Builtin.faultId, healthy)] := by
  have hecho : s.exchange.registry.checkHealth Builtin.echoId = .ok true := by
    rw [Registry.checkHealth, h.equipped.echo]
    rfl
  have hfault : s.exchange.registry.checkHealth Builtin.faultId = .ok healthy := by
    rw [Registry.checkHealth, h.equipped.fault]
  have hperm := hexact.results_perm
  rw [h.ready.backends, Builtin.ids, List.map_cons, List.map_singleton,
    Exchange.succeeds_ownCheck hecho, Exchange.succeeds_ownCheck hfault] at hperm
  exact hperm

theorem ok_verdicts {rs : List (String × Bool)}
    (h : rs.Perm [(Builtin.echoId, true), (Builtin.faultId, healthy)]) :
    Response.ok (verdicts rs) = ⟨200, .json (verdicts rs), none⟩ := by
  rcases List.perm_pair.1 h with rfl | rfl
  · cases healthy <;> rfl
  · cases healthy <;> rfl

structure Recovered (s : Service) (now : Float) (id : String) : Prop where
  sighting : s.exchange.sightings.get? id = some ⟨true, now, none⟩
  circuit : ∀ later, (s.breaker.status id later).val.1.state = .closed ∧
    (s.breaker.status id later).val.1.failures = 0

theorem probe_reports_last_told {env : List (String × String)} {watching : Bool}
    (hs : start env watching = .ok s) (vs : List Visit) (m : Moment)
    (hq : Endpoint.locate q = .found .probe) (tick : Float) :
    let probed := (((s.after vs).atMoment m).respond q tick).val
    ∃ rs, rs.Perm [(Builtin.echoId, true), (Builtin.faultId, (s.told vs).getLast?.getD true)] ∧
      probed.1 = ⟨200, .json (verdicts rs), none⟩ ∧
      ∀ id, (id, true) ∈ rs → probed.2.Recovered m.now id := by
  intro probed
  have hafter := after_wired (wired_start hs) vs
  have hwired : ((s.after vs).atMoment m).Wired ((s.told vs).getLast?.getD true) :=
    ⟨hafter.equipped, hafter.ready⟩
  obtain ⟨rs, hanswer, -, hexact⟩ := probe_round hwired
  have hprobed : probed = (.ofExcept verdicts (.ok rs), ((s.after vs).atMoment m).withGateway
      (((s.after vs).gateway.probeAll (s.after vs).exchange.ownCheck m).val.2.2)) := by
    rw [← hanswer]
    simp only [probed, respond, hq]
    rfl
  have hperm := results_perm hwired hexact
  refine ⟨rs, hperm, ?_, ?_⟩
  · rw [hprobed]
    exact ok_verdicts hperm
  · intro id hid
    obtain ⟨hsighting, hfaultless⟩ := hexact.recovers hwired.ready.bound hid
    rw [hprobed]
    refine ⟨hsighting, fun later => ⟨?_, ?_⟩⟩
    · exact (Breaker.closed_status_iff _ id later).2 hfaultless.closed
    · exact (Breaker.failures_status _ id later).trans hfaultless.failures

def tellHealth (now : Float) (healthy : Bool) : Visit :=
  ⟨⟨now, .epoch⟩, .request ⟨.post, ⟨["v1", "tools", "call"], []⟩, .json (.obj
    [("backend_id", .str Builtin.faultId), ("tool_name", .str "fault_set_health"),
      ("arguments", .obj [("healthy", .bool healthy)])])⟩ 0.0⟩

def probeNow : Request := ⟨.post, ⟨["v1", "servers", "probe"], []⟩, .absent⟩

def relapse : List Visit :=
  [tellHealth 1000.0 false, tellHealth 1000.0 true, failing, tellHealth 1000.0 false]

theorem probe_reports_last_told_relapse : ∃ s, start hasty true = .ok s ∧
    ((s.after relapse).breaker.status Builtin.faultId 1000.0).val.1.state = .opened ∧
    ∃ rs, rs.Perm [(Builtin.echoId, true), (Builtin.faultId, true)] ∧
      let probed := (((s.after relapse).atMoment ⟨1000.0, .epoch⟩).respond probeNow 0.0).val
      probed.1 = ⟨200, .json (verdicts rs), none⟩ ∧
        probed.2.Recovered 1000.0 Builtin.faultId := by
  obtain ⟨s, hs, htold, hopened⟩ := exists_start hasty true
    (fun s => s.told relapse = [false, true] ∧
      ((s.after relapse).breaker.status Builtin.faultId 1000.0).val.1.state = .opened)
    (by decide +kernel)
  obtain ⟨rs, hperm, hanswer, hrecovered⟩ := probe_reports_last_told hs relapse ⟨1000.0, .epoch⟩
    (q := probeNow) (by decide +kernel) 0.0
  rw [htold] at hperm
  have hwell : (Builtin.faultId, true) ∈ rs := hperm.mem_iff.2 (by simp)
  exact ⟨s, hs, hopened, rs, hperm, hanswer, hrecovered _ hwell⟩

end Service

end Switchboard
