import Switchboard.Proofs.Directory.Run
import Switchboard.Proofs.Registry.Run

namespace Switchboard

namespace Gateway

inductive Deed where
  | agents (deed : Directory.Deed)
  | registry (deed : Registry.Deed)
  | dispatch (m : Moment) (c : Call)
  | call (m : Moment) (c : AgentCall) (tick : Float)
  | configure (id : String) (limits : CircuitLimits)
  | resetCircuit (id : String)
  | circuitStatus (id : String) (now : Float)
  | watch (id : String)
  | unwatch (id : String)
  | startWatch
  | stopWatch
  | probeAll (course : String → ProbeCourse) (m : Moment)
  | pass (course : String → ProbeCourse) (m : Moment) (ms : Nat)

def Deed.agents? : Deed → Option Directory.Deed
  | .agents deed => some deed
  | _ => none

def act (ids : Nat → String) (g : Gateway) : Deed → Gateway
  | .agents deed => { g with directory := g.directory.act ids deed }
  | .registry deed => g.setRegistry (g.exchange.registry.act deed).val.2
  | .dispatch m c => (g.dispatch m c).val.2
  | .call m c tick => (g.call m c tick).val.2
  | .configure id limits => g.setBreaker (g.exchange.breaker.configure id limits)
  | .resetCircuit id => g.setBreaker (g.exchange.breaker.reset id)
  | .circuitStatus id now => g.setBreaker (g.exchange.breaker.status id now).val.2
  | .watch id => { g with watch := g.watch.add id }
  | .unwatch id => { g with watch := g.watch.remove id }
  | .startWatch => { g with watch := g.watch.begin.val }
  | .stopWatch => { g with watch := g.watch.stop.val }
  | .probeAll course m => (g.probeAll course m).val.2.2
  | .pass course m ms => (g.pass course m ms).val.2

def run (ids : Nat → String) (g : Gateway) (deeds : List Deed) : Gateway :=
  deeds.foldl (act ids) g

variable {ids : Nat → String}

theorem run_append (g : Gateway) (before after : List Deed) :
    run ids g (before ++ after) = run ids (run ids g before) after :=
  List.foldl_append

theorem run_concat (g : Gateway) (deeds : List Deed) (deed : Deed) :
    run ids g (deeds ++ [deed]) = act ids (run ids g deeds) deed :=
  run_append g deeds [deed]

theorem call_of_error {g : Gateway} {c : AgentCall} {refusal : Refusal}
    (h : g.directory.callerScopes c.agent = .error refusal) (m : Moment) (tick : Float) :
    g.call m c tick = pure (.error (.refused refusal), g) := by
  simp only [call, h]

theorem call_of_ok {g : Gateway} {c : AgentCall} {scopes : Option (List String)}
    (h : g.directory.callerScopes c.agent = .ok scopes) (m : Moment) (tick : Float) :
    g.call m c tick = g.dispatch m ⟨c.backend, c.tool, .obj c.arguments, scopes, tick⟩ := by
  simp only [call, h]

theorem directory_act (ids : Nat → String) (g : Gateway) (deed : Deed) :
    (act ids g deed).directory = Directory.runFrom ids g.directory deed.agents?.toList := by
  cases deed with
  | call m c tick =>
      rw [act]
      cases h : g.directory.callerScopes c.agent with
      | error refusal => rw [call_of_error h]; rfl
      | ok scopes => rw [call_of_ok h]; rfl
  | _ => rfl

theorem directory_run (ids : Nat → String) (g : Gateway) (deeds : List Deed) :
    (run ids g deeds).directory =
      Directory.runFrom ids g.directory (deeds.filterMap Deed.agents?) := by
  induction deeds generalizing g with
  | nil => rfl
  | cons deed deeds ih =>
      have hc : (deed :: deeds).filterMap Deed.agents? =
          deed.agents?.toList ++ deeds.filterMap Deed.agents? := by
        cases deed <;> rfl
      rw [hc, Directory.runFrom, List.foldl_append]
      change _ = Directory.runFrom ids (Directory.runFrom ids g.directory deed.agents?.toList) _
      rw [← directory_act]
      exact ih (act ids g deed)

end Gateway

end Switchboard
