import Switchboard.Proofs.Breaker.Served
import Switchboard.Proofs.Dispatch.Effect
import Switchboard.Proofs.Gateway.Run
import Switchboard.Proofs.Probe.Keeping
import Switchboard.Proofs.Probe.Order
import Switchboard.Proofs.Service.Polling

namespace Switchboard

theorem exists_of_bind {ε α β : Type} {e : Except ε α} {f : α → Except ε β} {b : β}
    (h : e >>= f = .ok b) : ∃ a, e = .ok a ∧ f a = .ok b := by
  cases e with
  | error _ => cases h
  | ok a => exact ⟨a, rfl, h⟩

namespace Exchange

variable {now : Float} {P : Breaker → Prop} {x : Exchange}

theorem enter_keeps (hk : Breaker.Keeps now P) (hx : P x.breaker) (bound : Bool)
    (o : String × Verdict) : P (x.enter bound now o).val.breaker := by
  obtain ⟨id, v⟩ := o
  rw [breaker_enter]
  split
  · cases v with
    | healthy => exact hk _ id (.succeed now) .succeed hx
    | unhealthy message => exact hk _ id (.fail now) .fail hx
    | cancelled => exact hx
  · exact hx

theorem settle_keeps {m : Moment} (hk : Breaker.Keeps m.now P) (hx : P x.breaker) (c : Call)
    (state : CircuitState) (o : Outcome) : P (x.settle m c state o).val.2.breaker := by
  cases o with
  | returned output => exact hk _ c.backend (.succeed m.now) .succeed hx
  | returnedOther kind => exact hk _ c.backend (.succeed m.now) .succeed hx
  | rejected report => exact hx
  | raised kind message => exact hk _ c.backend (.fail m.now) .fail hx

theorem dispatch_keeps {m : Moment} (hk : Breaker.Keeps m.now P) (hx : P x.breaker) (c : Call) :
    P (x.dispatch m c).val.2.breaker := by
  rcases x.dispatch_cases m c with h | ⟨t, h⟩ | ⟨tool, -, h⟩ <;> rw [h]
  · exact hx
  · exact hx
  · exact settle_keeps hk (hk _ c.backend (.ask m.now) .ask hx) c _ _

end Exchange

namespace Gateway

variable {P : Breaker → Prop} {g : Gateway} {m : Moment}

theorem call_keeps (hk : Breaker.Keeps m.now P) (hg : P g.exchange.breaker) (c : AgentCall)
    (tick : Float) : P (g.call m c tick).val.2.exchange.breaker := by
  cases h : g.directory.callerScopes c.agent with
  | error refusal =>
      rw [call_of_error h]
      exact hg
  | ok scopes =>
      rw [call_of_ok h]
      exact Exchange.dispatch_keeps hk hg _

theorem probes_keep (hk : Breaker.Keeps m.now P) (plan : ProbePlan) (bound : Bool)
    (course : String → ProbeCourse) :
    ProbeSetting.Keeps ⟨plan, bound, m.now, course⟩ (fun x => P x.breaker) fun _ => True where
  course _ := trivial
  enter _ o hx _ := Exchange.enter_keeps hk hx bound o

theorem probeAll_keeps (hk : Breaker.Keeps m.now P) (hg : P g.exchange.breaker)
    (course : String → ProbeCourse) : P (g.probeAll course m).val.2.2.exchange.breaker :=
  (g.watch.gives_everything.probeAll course m.now (probes_keep hk _ _ course) hg).2.2

theorem pass_keeps (hk : Breaker.Keeps m.now P) (hg : P g.exchange.breaker)
    (course : String → ProbeCourse) (ms : Nat) : P (g.pass course m ms).val.2.exchange.breaker :=
  (g.watch.gives_everything.pass course m.now (probes_keep hk _ _ course) hg ms).2.2

end Gateway

namespace Service

variable {P : Breaker → Prop} {s s' s'' : Service}

def breaker (s : Service) : Breaker := s.gateway.exchange.breaker

theorem survey_keeps {now : Float} (hk : Breaker.Keeps now P) (x : Exchange) (ids : List String)
    {b : Breaker} (hb : P b) : P (survey x now ids b).val.2 := by
  induction ids generalizing b with
  | nil => exact hb
  | cons id ids ih => exact ih (hk b id (.status now) .status hb)

theorem respond_keeps (hk : Breaker.Keeps s.moment.now P) (hs : P s.breaker) (r : Request)
    (tick : Float) : P (s.respond r tick).val.2.breaker := by
  have hstatus (b : Breaker) (id : String) (hb : P b) : P (b.status id s.moment.now).val.2 :=
    hk b id (.status s.moment.now) .status hb
  rw [respond]
  cases Endpoint.locate r with
  | unknown => exact hs
  | wrongMethod => exact hs
  | found e =>
      cases e with
      | serversHealth => exact survey_keeps hk _ _ hs
      | probe => exact Gateway.probeAll_keeps hk hs _
      | circuit id => exact hstatus _ id hs
      | resetCircuit id => exact hstatus _ id (hk _ id .reset .reset hs)
      | discover => exact withBody_ends (P := (P ·.breaker)) r _ hs fun _ => hs
      | call =>
          exact withBody_ends (P := (P ·.breaker)) r _ hs fun c => Gateway.call_keeps hk hs c tick
      | createAgent => exact withBody_ends (P := (P ·.breaker)) r _ hs fun _ => hs
      | _ => exact hs

theorem visit_keeps {v : Visit} (hk : Breaker.Keeps v.moment.now P) (hs : P s.breaker) :
    P (s.visit v).2.breaker := by
  rw [visit]
  cases v.happening with
  | request r tick => exact respond_keeps (s := s.atMoment v.moment) hk hs r tick
  | pass ms => exact Gateway.pass_keeps hk hs _ ms

def after (s : Service) (vs : List Visit) : Service := vs.foldl (fun s v => (s.visit v).2) s

theorem after_keeps {vs : List Visit} (hk : ∀ v ∈ vs, Breaker.Keeps v.moment.now P)
    (hs : P s.breaker) : P (s.after vs).breaker := by
  induction vs generalizing s with
  | nil => exact hs
  | cons v vs ih =>
      obtain ⟨hv, hvs⟩ := List.forall_mem_cons.1 hk
      exact ih hvs (visit_keeps hv hs)

def Onward (s s' : Service) : Prop :=
  ∃ deeds, s'.gateway.directory =
    Directory.runFrom Directory.agentId s.gateway.directory deeds

theorem Onward.of_eq (h : s'.gateway.directory = s.gateway.directory) : s.Onward s' := ⟨[], h⟩

theorem Onward.trans (h : s.Onward s') (h' : s'.Onward s'') : s.Onward s'' := by
  obtain ⟨before, h⟩ := h
  obtain ⟨after, h'⟩ := h'
  refine ⟨before ++ after, ?_⟩
  rw [h', h, Directory.runFrom, Directory.runFrom, Directory.runFrom, List.foldl_append]

theorem respond_onward (s : Service) (r : Request) (tick : Float) :
    s.Onward (s.respond r tick).val.2 := by
  rw [respond]
  cases Endpoint.locate r with
  | unknown => exact .of_eq rfl
  | wrongMethod => exact .of_eq rfl
  | found e =>
      cases e with
      | discover => exact withBody_ends (P := s.Onward) r _ (.of_eq rfl) fun _ => .of_eq rfl
      | call =>
          exact withBody_ends (P := s.Onward) r _ (.of_eq rfl) fun c =>
            .of_eq (Gateway.directory_act Directory.agentId s.gateway (.call s.moment c tick))
      | createAgent =>
          exact withBody_ends (P := s.Onward) r _ (.of_eq rfl) fun a =>
            ⟨[.create a (.once s.moment.wall)], rfl⟩
      | revoke id => exact ⟨[.revoke id], rfl⟩
      | _ => exact .of_eq rfl

theorem visit_onward (s : Service) (v : Visit) : s.Onward (s.visit v).2 := by
  rw [visit]
  cases v.happening with
  | request r tick => exact respond_onward (s.atMoment v.moment) r tick
  | pass ms => exact .of_eq rfl

theorem after_onward (s : Service) (vs : List Visit) : s.Onward (s.after vs) := by
  induction vs generalizing s with
  | nil => exact .of_eq rfl
  | cons v vs ih => exact (visit_onward s v).trans (ih _)

structure Opens (s : Service) : Prop where
  breaker : ∃ limits, s.breaker = .start limits
  directory : s.gateway.directory = .empty

theorem exists_of_withBuiltins {g g' : Gateway} (h : (withBuiltins g).val = .ok g') :
    ∃ ids registry,
      (Builtin.register (g.exchange.registry.subscribe .index).val).val = (.ok ids, registry) ∧
      g' = { g.setRegistry registry with watch := ids.foldl Watch.add g.watch } := by
  simp only [withBuiltins, Logged.val_bind, Logged.val_pure] at h
  generalize (Builtin.register (g.exchange.registry.subscribe .index).val).val = registered at h ⊢
  obtain ⟨ids, registry⟩ := registered
  cases ids with
  | error e => cases h
  | ok ids => exact ⟨ids, registry, rfl, (Except.ok.inj h).symm⟩

structure Begins (s : Service) (settings : Settings) (watching : Bool) (ids : List String)
    (registry : Registry) : Prop where
  registered : (Builtin.register (Registry.empty.subscribe .index).val).val = (.ok ids, registry)
  exchange : s.exchange = ⟨registry, .start settings.circuit, .empty,
    .start .traces (some Ledger.standardCapacity)⟩
  directory : s.gateway.directory = .empty
  watch : let w := ids.foldl Watch.add (.start settings.probe true)
    s.gateway.watch = if watching then w.begin.val else w

theorem exists_of_start {env : List (String × String)} {watching : Bool}
    (h : start env watching = .ok s) : ∃ settings ids registry,
      Settings.startUp env = .ok settings ∧ s.Begins settings watching ids registry := by
  obtain ⟨settings, hsettings, h⟩ := exists_of_bind h
  obtain ⟨g, hg, h⟩ := exists_of_bind h
  obtain ⟨ids, registry, hregistered, rfl⟩ := exists_of_withBuiltins hg
  cases h
  refine ⟨settings, ids, registry, hsettings, ?_⟩
  cases watching <;> exact ⟨hregistered, rfl, rfl, rfl⟩

theorem opens_start {env : List (String × String)} {watching : Bool}
    (h : start env watching = .ok s) : s.Opens := by
  obtain ⟨settings, ids, registry, -, hbegins⟩ := exists_of_start h
  exact ⟨⟨settings.circuit, congrArg Exchange.breaker hbegins.exchange⟩, hbegins.directory⟩

theorem breaker_start {env : List (String × String)} {watching : Bool}
    (h : start env watching = .ok s) : ∃ limits, s.breaker = .start limits :=
  (opens_start h).breaker

theorem Opens.numbered (hs : s.Opens) (vs : List Visit) :
    (s.after vs).gateway.directory.Numbered Directory.agentId := by
  obtain ⟨deeds, hdeeds⟩ := after_onward s vs
  rw [hdeeds, hs.directory]
  exact Directory.numbered_run _ deeds

end Service

end Switchboard
