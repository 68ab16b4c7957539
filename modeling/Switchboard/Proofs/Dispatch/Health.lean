import Mathlib.Data.List.Basic
import Switchboard.AgentCall
import Switchboard.Catalogue.Builtin
import Switchboard.Proofs.Dispatch.Effect

namespace Switchboard

structure Registry.Equipped (healthy : Bool) (r : Registry) : Prop where
  echo : r.backends.get? Builtin.echoId = some Builtin.echoBackend
  fault : r.backends.get? Builtin.faultId =
    some { Builtin.faultBackend with check := .reports healthy }

def AgentCall.asks? (c : AgentCall) : Option Bool :=
  if c.backend = Builtin.faultId ∧ c.tool = "fault_set_health" then
    match Reader.required c.arguments "healthy" .flag with
    | .passed healthy => some healthy
    | .failed _ => none
  else none

theorem AgentCall.target_of_asks {c : AgentCall} {asked : Bool} (h : c.asks? = some asked) :
    c.backend = Builtin.faultId ∧ c.tool = "fault_set_health" := by
  rw [asks?] at h
  split at h
  · assumption
  · cases h

namespace Registry

variable {r : Registry} {healthy : Bool} {id : String}

theorem Equipped.setHealth_fault (h : r.Equipped healthy) (told : Option Bool) :
    (r.setHealth Builtin.faultId told).Equipped (told.getD healthy) where
  echo := (get?_setHealth_of_ne r (by decide) told).trans h.echo
  fault := by
    cases told with
    | none => exact h.fault
    | some told =>
        rw [setHealth, h.fault]
        exact Roster.get?_put_self _ _ _

theorem Equipped.setHealth_of_ne (h : r.Equipped healthy) (hid : id ≠ Builtin.faultId)
    {told : Option Bool} (hquiet : id = Builtin.echoId → told = none) :
    (r.setHealth id told).Equipped healthy where
  echo := by
    by_cases hecho : id = Builtin.echoId
    · rw [hquiet hecho]
      exact h.echo
    · exact (get?_setHealth_of_ne r (Ne.symm hecho) told).trans h.echo
  fault := (get?_setHealth_of_ne r (Ne.symm hid) told).trans h.fault

end Registry

theorem Tool.quiet_react {tool : Tool} (h : ∀ args, (tool.handler args).health = none)
    (payload : Json) : (tool.react payload).health = none := by
  rw [react]
  split
  · rfl
  · exact h _

theorem Builtin.react_faultSetHealth (arguments : List (String × Json)) :
    faultSetHealth.react (.obj arguments) =
      match Reader.required arguments "healthy" .flag with
      | .passed healthy => ⟨.returned (if healthy then "healthy" else "unhealthy"), some healthy⟩
      | .failed issues => Outcome.quiet (.rejected ⟨"FaultHealthToolInput", issues⟩) := by
  have hread : faultSetHealth.form.read (.obj arguments) =
      (Reader.required arguments "healthy" .flag).map fun h => [("healthy", .bool h)] := by
    change ((fun h => [("healthy", Json.bool h)]) <$> Reader.required arguments "healthy" .flag) = _
    cases Reader.required arguments "healthy" .flag <;> rfl
  rw [Tool.react, hread]
  cases Reader.required arguments "healthy" .flag <;> rfl

structure AgentCall.Heeded (c : AgentCall) (healthy : Bool) (answer : Except Fault String)
    (r : Registry) : Prop where
  equipped : r.Equipped ((if answer.isOk then c.asks? else none).getD healthy)
  told : ∀ asked output, c.asks? = some asked → answer = .ok output →
    output = if asked then "healthy" else "unhealthy"

namespace AgentCall.Heeded

variable {c : AgentCall} {healthy : Bool} {answer : Except Fault String} {r : Registry}

theorem of_error (e : Fault) (h : r.Equipped healthy) : c.Heeded healthy (.error e) r :=
  ⟨h, fun _ _ _ he => by cases he⟩

theorem of_quiet (hquiet : c.asks? = none) (h : r.Equipped healthy) :
    c.Heeded healthy answer r where
  equipped := by
    rw [hquiet, ite_self]
    exact h
  told _ _ hasked := by
    rw [hquiet] at hasked
    cases hasked

theorem of_asked {asked : Bool} (hasked : c.asks? = some asked) (h : r.Equipped asked) :
    c.Heeded healthy (.ok (if asked then "healthy" else "unhealthy")) r where
  equipped := by
    rw [hasked]
    exact h
  told asked' output hasked' houtput := by
    obtain rfl : asked = asked' := Option.some.inj (hasked.symm.trans hasked')
    exact (Except.ok.inj houtput).symm

end AgentCall.Heeded

namespace Exchange

variable {x : Exchange} {healthy : Bool} {call : Call} {tool : Tool}

def carryOut (x : Exchange) (m : Moment) (call : Call) (tool : Tool) (state : CircuitState) :
    Except Fault String × Exchange :=
  ({ x.checked m call with
      registry := x.registry.setHealth call.backend (tool.react call.payload).health }.settle m call
    state (tool.react call.payload).outcome).val

theorem registry_carryOut (x : Exchange) (m : Moment) (call : Call) (tool : Tool)
    (state : CircuitState) : (x.carryOut m call tool state).2.registry =
      x.registry.setHealth call.backend (tool.react call.payload).health :=
  settle_registry _ m call state _

theorem quiet_of_echo (h : x.registry.Equipped healthy) (he : x.Entitled call tool)
    (hid : call.backend = Builtin.echoId) : (tool.react call.payload).health = none := by
  obtain ⟨b, hb, ht⟩ := he.offered
  rw [hid, h.echo] at hb
  cases hb
  rcases List.mem_pair.1 (List.mem_of_find?_eq_some ht) with rfl | rfl
  · exact Tool.quiet_react (fun _ => rfl) call.payload
  · exact Tool.quiet_react (fun _ => rfl) call.payload

theorem tool_of_fault (h : x.registry.Equipped healthy) (he : x.Entitled call tool)
    (hid : call.backend = Builtin.faultId) :
    (tool = Builtin.faultCall ∧ call.tool ≠ "fault_set_health") ∨
      (tool = Builtin.faultSetHealth ∧ call.tool = "fault_set_health") := by
  obtain ⟨b, hb, ht⟩ := he.offered
  rw [hid, h.fault] at hb
  cases hb
  have hname : tool.name = call.tool := by simpa using List.find?_some ht
  rcases List.mem_pair.1 (List.mem_of_find?_eq_some ht) with rfl | rfl
  · exact .inl ⟨rfl, hname ▸ by decide⟩
  · exact .inr ⟨rfl, hname.symm⟩

theorem carryOut_asked (h : x.registry.Equipped healthy) {c : AgentCall}
    (htarget : c.backend = Builtin.faultId ∧ c.tool = "fault_set_health")
    (hid : call.backend = c.backend) (hpayload : call.payload = .obj c.arguments) (m : Moment)
    (state : CircuitState) :
    c.Heeded healthy (x.carryOut m call Builtin.faultSetHealth state).1
      (x.carryOut m call Builtin.faultSetHealth state).2.registry := by
  have hasks : c.asks? = _ := if_pos htarget
  have hreact := Builtin.react_faultSetHealth c.arguments
  rw [← hpayload] at hreact
  rw [registry_carryOut]
  cases hread : Reader.required c.arguments "healthy" .flag with
  | passed asked =>
      rw [hread] at hreact hasks
      have hanswer : (x.carryOut m call Builtin.faultSetHealth state).1 =
          .ok (if asked then "healthy" else "unhealthy") := by
        rw [carryOut, hreact]
        rfl
      rw [hanswer, hreact, hid, htarget.1]
      exact .of_asked hasks (h.setHealth_fault (some asked))
  | failed issues =>
      rw [hread] at hreact
      have hanswer : ∃ e, (x.carryOut m call Builtin.faultSetHealth state).1 = .error e := by
        rw [carryOut, hreact]
        exact ⟨_, rfl⟩
      obtain ⟨e, hanswer⟩ := hanswer
      rw [hanswer, hreact]
      exact .of_error e h

theorem carryOut_heeds (h : x.registry.Equipped healthy) {c : AgentCall}
    (hcall : call.backend = c.backend ∧ call.tool = c.tool ∧ call.payload = .obj c.arguments)
    (he : x.Entitled call tool) (m : Moment) (state : CircuitState) :
    c.Heeded healthy (x.carryOut m call tool state).1
      (x.carryOut m call tool state).2.registry := by
  obtain ⟨hbackend, htool, hpayload⟩ := hcall
  by_cases hid : call.backend = Builtin.faultId
  · rcases tool_of_fault h he hid with ⟨rfl, hother⟩ | ⟨rfl, hswitch⟩
    · have hquiet : c.asks? = none := by
        rw [AgentCall.asks?, if_neg fun hc => hother (htool.trans hc.2)]
      refine .of_quiet hquiet ?_
      rw [registry_carryOut, Tool.quiet_react (fun _ => rfl)]
      exact h
    · have htarget := And.intro (hbackend.symm.trans hid) (htool.symm.trans hswitch)
      exact carryOut_asked h htarget hbackend hpayload m state
  · have hquiet : c.asks? = none := by
      rw [AgentCall.asks?, if_neg fun hc => hid (hbackend.trans hc.1)]
    refine .of_quiet hquiet ?_
    rw [registry_carryOut]
    exact h.setHealth_of_ne hid fun hecho => quiet_of_echo h he hecho

theorem dispatch_heeds (h : x.registry.Equipped healthy) (m : Moment) (c : AgentCall)
    (scopes : Option (List String)) (tick : Float) :
    let d := x.dispatch m ⟨c.backend, c.tool, .obj c.arguments, scopes, tick⟩
    c.Heeded healthy d.val.1 d.val.2.registry := by
  intro d
  cases hresolve : x.resolve ⟨c.backend, c.tool, .obj c.arguments, scopes, tick⟩ with
  | error refusal =>
      have hd : d.val = _ := dispatch_of_error hresolve
      rw [hd]
      exact .of_error _ h
  | ok tool =>
      have he := resolve_eq_ok_iff.1 hresolve
      have hd : d = _ := (watched_fst x m _).symm
      rw [hd]
      cases ha : (x.admitted m ⟨c.backend, c.tool, .obj c.arguments, scopes, tick⟩).allowed with
      | false =>
          rw [(watched_of_refused he ha).1, checked_of_refused ha, refuseOpen_snd]
          have hr := x.refuseOpen_cases m ⟨c.backend, c.tool, .obj c.arguments, scopes, tick⟩
          rcases hr with hr | ⟨refusal, hr, -⟩
          · rw [hr]
            exact .of_error _ h
          · rw [hr]
            exact .of_error _ h
      | true =>
          rw [(watched_of_admitted he ha).1]
          exact carryOut_heeds h ⟨rfl, rfl, rfl⟩ he m _

end Exchange

end Switchboard
