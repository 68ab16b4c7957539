import Switchboard.Catalogue.Builtin
import Switchboard.Proofs.Dispatch.Agreement
import Switchboard.Proofs.Gateway.Run
import Switchboard.Proofs.Probe.Keeping

namespace Switchboard

def Backend.Attributable (b : Backend) : Prop := ∀ t ∈ b.tools, t.Attributable

def Registry.Attributable (r : Registry) : Prop := ∀ e ∈ r.backends.entries, e.2.Attributable

theorem Backend.Attributable.congr {b c : Backend} (h : c.Attributable)
    (hu : b.unchecked = c.unchecked) : b.Attributable := by
  rw [Attributable, Backend.tools_eq hu]
  exact h

theorem Registry.Attributable.act {r : Registry} (h : r.Attributable) {deed : Deed}
    (hd : ∀ b, deed = .register b → b.Attributable) : (r.act deed).val.2.Attributable := by
  intro e he
  rcases entry_of_turn (act_turn r deed) he with ⟨b, hb, rfl, -⟩ | ⟨b, hb, hu⟩
  · exact hd b hb
  · exact (h _ hb).congr hu

theorem Registry.Attributable.setHealth {r : Registry} (h : r.Attributable) (id : String)
    (health : Option Bool) : (r.setHealth id health).Attributable := by
  intro e he
  obtain ⟨b, hb, hu⟩ := mem_setHealth he
  exact (h _ hb).congr hu

namespace Exchange

variable {x y : Exchange} {c : Call} {tool : Tool}

theorem Entitled.attributable (he : x.Entitled c tool) (h : x.registry.Attributable) :
    tool.Attributable := by
  obtain ⟨b, hb, ht⟩ := he.offered
  have hm := (Roster.get?_eq_some_iff _ _ _).1 hb
  exact h _ hm tool (List.mem_of_find?_eq_some ht)

theorem registry_dispatch (x : Exchange) (m : Moment) (c : Call) :
    ∃ health, (x.dispatch m c).val.2.registry = x.registry.setHealth c.backend health := by
  rcases x.dispatch_cases m c with hx | ⟨t, hx⟩ | ⟨tool, -, hx⟩
  · rw [hx]
    exact ⟨none, rfl⟩
  · rw [hx]
    exact ⟨none, rfl⟩
  · rw [hx, settle_registry]
    exact ⟨_, rfl⟩

structure Recorded (x y : Exchange) : Prop where
  registry : y.registry = x.registry
  moves : ∀ id, x.Moves id y

theorem Recorded.refl (x : Exchange) : x.Recorded x := ⟨rfl, fun id => .refl id x⟩

theorem probes_record (x : Exchange) {s : ProbeSetting} (hb : s.bound = true) :
    s.Keeps x.Recorded Verdict.Worded where
  course id := (s.course id).within_worded s.plan.timeoutMs
  enter y o hy ho :=
    ⟨(registry_enter y s.bound s.now o).trans hy.registry,
      fun id => (hy.moves id).trans (hb ▸ moves_enter y s.now ho id)⟩

end Exchange

namespace Gateway

structure Steady (g : Gateway) : Prop where
  attributable : g.exchange.registry.Attributable
  bound : g.watch.bound = true
  worded : g.watch.Gives Verdict.Worded

variable {ids : Nat → String} {g : Gateway}

theorem Steady.dispatch (h : g.Steady) (m : Moment) (c : Call) :
    (g.dispatch m c).val.2.Steady ∧ ∀ id, g.exchange.Moves id (g.dispatch m c).val.2.exchange := by
  refine ⟨⟨?_, h.bound, h.worded⟩, Exchange.moves_dispatch (fun _ he => he.attributable h.attributable) m⟩
  obtain ⟨health, hr⟩ := g.exchange.registry_dispatch m c
  change (g.exchange.dispatch m c).val.2.registry.Attributable
  rw [hr]
  exact h.attributable.setHealth c.backend health

theorem Steady.recorded (h : g.Steady) {w : Watch} {x : Exchange} (hw : w.Gives Verdict.Worded)
    (hb : w.bound = g.watch.bound) (hx : g.exchange.Recorded x) :
    Steady { g with watch := w, exchange := x } ∧ ∀ id, g.exchange.Moves id x :=
  ⟨⟨hx.registry ▸ h.attributable, hb.trans h.bound, hw⟩, hx.moves⟩

theorem Steady.act (h : g.Steady) {deed : Deed}
    (hd : ∀ b, deed = .registry (.register b) → b.Attributable) :
    (act ids g deed).Steady ∧
      ∀ id, deed ≠ .resetCircuit id → g.exchange.Moves id (act ids g deed).exchange := by
  have still (id : String) : g.exchange.Moves id g.exchange := .refl id g.exchange
  cases deed with
  | agents deed => exact ⟨⟨h.attributable, h.bound, h.worded⟩, fun id _ => still id⟩
  | registry deed =>
      refine ⟨⟨h.attributable.act fun b hb => hd b (hb ▸ rfl), h.bound, h.worded⟩, ?_⟩
      exact fun id _ => .rests rfl (.refl id g.exchange.breaker)
  | dispatch m c =>
      obtain ⟨hs, hm⟩ := h.dispatch m c
      exact ⟨hs, fun id _ => hm id⟩
  | call m c tick =>
      rw [Gateway.act]
      cases hc : g.directory.callerScopes c.agent with
      | error refusal =>
          rw [call_of_error hc]
          exact ⟨h, fun id _ => still id⟩
      | ok scopes =>
          rw [call_of_ok hc]
          obtain ⟨hs, hm⟩ := h.dispatch m ⟨c.backend, c.tool, .obj c.arguments, scopes, tick⟩
          exact ⟨hs, fun id _ => hm id⟩
  | configure k limits =>
      refine ⟨⟨h.attributable, h.bound, h.worded⟩, fun id _ => .rests rfl ?_⟩
      exact Breaker.rests_act (a := .configure limits) rfl _ k id
  | resetCircuit k =>
      refine ⟨⟨h.attributable, h.bound, h.worded⟩, fun id hn => .rests rfl ?_⟩
      have hk : id ≠ k := by
        rintro rfl
        exact hn rfl
      exact Breaker.rests_of_ne hk g.exchange.breaker .reset
  | circuitStatus k now =>
      refine ⟨⟨h.attributable, h.bound, h.worded⟩, fun id _ => .rests rfl ?_⟩
      exact Breaker.rests_act (a := .status now) rfl _ k id
  | watch id =>
      obtain ⟨hw, hb⟩ := h.worded.add id
      exact ⟨⟨h.attributable, hb.trans h.bound, hw⟩, fun id _ => still id⟩
  | unwatch id =>
      exact ⟨⟨h.attributable, h.bound, h.worded.strays, h.worded.task⟩, fun id _ => still id⟩
  | startWatch =>
      obtain ⟨hw, hb⟩ := h.worded.begin
      exact ⟨⟨h.attributable, hb.trans h.bound, hw⟩, fun id _ => still id⟩
  | stopWatch =>
      obtain ⟨hw, hb⟩ := h.worded.stop
      exact ⟨⟨h.attributable, hb.trans h.bound, hw⟩, fun id _ => still id⟩
  | probeAll course m =>
      obtain ⟨hw, hb, hx⟩ := h.worded.probeAll course m.now
        (g.exchange.probes_record h.bound) (.refl g.exchange)
      obtain ⟨hs, hm⟩ := h.recorded hw hb hx
      exact ⟨hs, fun id _ => hm id⟩
  | pass course m ms =>
      obtain ⟨hw, hb, hx⟩ := h.worded.pass course m.now
        (g.exchange.probes_record h.bound) (.refl g.exchange) ms
      obtain ⟨hs, hm⟩ := h.recorded hw hb hx
      exact ⟨hs, fun id _ => hm id⟩

variable {id : String} {deeds : List Deed} {deed : Deed}

def Attributes (deeds : List Deed) : Prop :=
  ∀ b, .registry (.register b) ∈ deeds → b.Attributable

theorem Attributes.of_concat (hd : Attributes (deeds ++ [deed])) :
    Attributes deeds ∧ ∀ b, deed = .registry (.register b) → b.Attributable :=
  ⟨fun b hb => hd b (List.mem_append_left _ hb),
    fun b hb => hd b (List.mem_append_right _ (hb ▸ List.mem_singleton.2 rfl))⟩

theorem Steady.run (h : g.Steady) (hd : Attributes deeds) : (run ids g deeds).Steady := by
  induction deeds using List.reverseRecOn with
  | nil => exact h
  | append_singleton deeds deed ih =>
      obtain ⟨hd, hlast⟩ := hd.of_concat
      rw [run_concat]
      exact ((ih hd).act hlast).1

theorem Steady.moves (h : g.Steady) (hd : Attributes (deeds ++ [deed]))
    (hr : deed ≠ .resetCircuit id) :
    (Gateway.run ids g deeds).exchange.Moves id (Gateway.run ids g (deeds ++ [deed])).exchange := by
  obtain ⟨hd, hlast⟩ := hd.of_concat
  rw [run_concat]
  exact ((h.run hd).act hlast).2 id hr

theorem Steady.agrees (h : g.Steady) (ha : g.exchange.Agrees id) (hd : Attributes deeds) :
    (Gateway.run ids g deeds).exchange.Agrees id := by
  induction deeds using List.reverseRecOn with
  | nil => exact ha
  | append_singleton deeds deed ih =>
      have hi := ih hd.of_concat.1
      by_cases hr : deed = .resetCircuit id
      · rw [run_concat, hr]
        exact hi.reset
      · exact hi.moves (h.moves hd hr)

/-- The circuit was reset when `s` was known of the backend, and no outcome has come in since. -/
def ResetSince (after : List Deed → Exchange) (id : String) (s : Sighting) (deeds : List Deed) :
    Prop :=
  ∃ before later, deeds = before ++ .resetCircuit id :: later ∧
    (after before).sightings.get? id = some s ∧
    ∀ mid, mid <+: later →
      (after (before ++ .resetCircuit id :: mid)).sightings.get? id = some s ∧
        (after (before ++ .resetCircuit id :: mid)).breaker.failures id = 0

variable {after : List Deed → Exchange} {s : Sighting}

theorem resetSince_reset (hb : (after deeds).sightings.get? id = some s)
    (hs : (after (deeds ++ [.resetCircuit id])).sightings.get? id = some s)
    (hf : (after (deeds ++ [.resetCircuit id])).breaker.failures id = 0) :
    ResetSince after id s (deeds ++ [.resetCircuit id]) := by
  refine ⟨deeds, [], rfl, hb, ?_⟩
  intro mid hm
  rw [List.prefix_nil.1 hm]
  exact ⟨hs, hf⟩

theorem ResetSince.concat (h : ResetSince after id s deeds)
    (hs : (after (deeds ++ [deed])).sightings.get? id = (after deeds).sightings.get? id)
    (hf : (after (deeds ++ [deed])).breaker.failures id = (after deeds).breaker.failures id) :
    ResetSince after id s (deeds ++ [deed]) := by
  obtain ⟨before, later, rfl, hb, hl⟩ := h
  refine ⟨before, later ++ [deed], by rw [List.append_assoc, List.cons_append], hb, ?_⟩
  intro mid hm
  rcases List.prefix_concat_iff.1 hm with rfl | hm
  · obtain ⟨hseen, hzero⟩ := hl later (List.prefix_refl later)
    rw [← List.cons_append, ← List.append_assoc]
    exact ⟨hs.trans hseen, hf.trans hzero⟩
  · exact hl mid hm

theorem Steady.blamed_or_reset (h : g.Steady) (hn : g.exchange.sightings.get? id = none)
    (hd : Attributes deeds)
    (hs : (Gateway.run ids g deeds).exchange.sightings.get? id = some s) (hu : s.healthy = false) :
    0 < (Gateway.run ids g deeds).exchange.breaker.failures id ∨
      ResetSince (fun deeds => (Gateway.run ids g deeds).exchange) id s deeds := by
  induction deeds using List.reverseRecOn with
  | nil => exact absurd (hn.symm.trans hs) (by simp)
  | append_singleton deeds deed ih =>
      by_cases hr : deed = .resetCircuit id
      · subst hr
        have hb : (Gateway.run ids g deeds).exchange.sightings.get? id = some s := by
          rw [run_concat] at hs
          exact hs
        refine .inr (resetSince_reset hb hs ?_)
        rw [run_concat]
        exact (Breaker.faultless_reset _ id).failures
      · have hm : (Gateway.run ids g deeds).exchange.Moves id
            (Gateway.run ids g (deeds ++ [deed])).exchange := h.moves hd hr
        cases hm with
        | credits hseen _ =>
            rw [hs, Option.some.injEq] at hseen
            rw [hseen] at hu
            cases hu
        | blames _ _ hf => exact .inl hf
        | rests hseen hr =>
            rcases ih hd.of_concat.1 (hseen.symm.trans hs) with hf | hreset
            · exact .inl (hr.failures ▸ hf)
            · exact .inr (hreset.concat hseen hr.failures)

theorem steady_start (limits : CircuitLimits) (plan : ProbePlan) (capacity : Option Nat) :
    (start limits plan true capacity).Steady where
  attributable _ he := absurd he List.not_mem_nil
  bound := rfl
  worded := ⟨fun _ hr => absurd hr List.not_mem_nil, fun _ ht => by cases ht⟩

theorem last_outcome_agrees (ids : Nat → String) (limits : CircuitLimits) (plan : ProbePlan)
    (capacity : Option Nat) (deeds : List Deed)
    (hd : ∀ b, .registry (.register b) ∈ deeds → b.Attributable) (id : String) (now : Float) :
    let after := fun deeds => (run ids (start limits plan true capacity) deeds).exchange
    let seen := fun deeds => (after deeds).sightings.get? id
    let status := fun deeds => ((after deeds).breaker.status id now).val.1
    ((status deeds).state ≠ .closed → 0 < (status deeds).failures) ∧
    (0 < (status deeds).failures →
      ∃ time error, seen deeds = some ⟨false, time, some error⟩ ∧ error ≠ "") ∧
    (∀ s, seen deeds = some s → s.healthy = true →
      (status deeds).failures = 0 ∧ (status deeds).state = .closed ∧ s.error = none) ∧
    ∀ s, seen deeds = some s → s.healthy = false → 0 < (status deeds).failures ∨
      ∃ before later, deeds = before ++ .resetCircuit id :: later ∧ seen before = some s ∧
        ∀ mid, mid <+: later → seen (before ++ .resetCircuit id :: mid) = some s ∧
          (status (before ++ .resetCircuit id :: mid)).failures = 0 := by
  intro after seen status
  have hstart := steady_start limits plan capacity
  have ha : (after deeds).Agrees id := hstart.agrees
    (Exchange.agrees_of_faultless ⟨rfl, rfl⟩ fun _ hs => by cases hs) hd
  have hf (deeds : List Deed) : (status deeds).failures = (after deeds).breaker.failures id :=
    Breaker.failures_status _ id now
  have hc : (status deeds).state = .closed ↔ (after deeds).breaker.Closed id :=
    Breaker.closed_status_iff _ id now
  simp only [hf]
  refine ⟨?_, ha.blamed, ?_, ?_⟩
  · intro hopen
    refine Nat.pos_of_ne_zero fun hz => hopen (hc.2 (ha.closed hz))
  · intro s hs hh
    obtain ⟨hz, he⟩ := ha.credited s hs hh
    exact ⟨hz, hc.2 (ha.closed hz), he⟩
  · intro s hs hu
    exact hstart.blamed_or_reset rfl hd hs hu

def tripped : List Deed :=
  [.registry (.register Builtin.faultBackend),
    .dispatch ⟨1.0, .epoch⟩ ⟨Builtin.faultId, "fault_call", .obj [("fail", .bool true)], none, 0.0⟩,
    .resetCircuit Builtin.faultId, .circuitStatus Builtin.faultId 2.0]

theorem faultBackend_attributable : Builtin.faultBackend.Attributable := by
  intro t ht args kind message hr
  rcases List.mem_cons.1 ht with rfl | ht
  · change (if args.flag "fail" then Outcome.raised "RuntimeError" "injected backend failure"
      else .returned (args.text "message")) = _ at hr
    split at hr
    · cases hr
      decide
    · cases hr
  · rw [List.mem_singleton.1 ht] at hr
    cases hr

theorem last_outcome_agrees_tripped :
    let after := fun deeds => (run Directory.agentId (start .standard .standard true none) deeds).exchange
    let seen := fun deeds => (after deeds).sightings.get? Builtin.faultId
    let status := fun deeds => ((after deeds).breaker.status Builtin.faultId 3.0).val.1
    (∀ b, .registry (.register b) ∈ tripped → b.Attributable) ∧
    seen tripped = some ⟨false, 1.0, some "injected backend failure"⟩ ∧
    (status tripped).failures = 0 ∧
    ∃ before later, tripped = before ++ .resetCircuit Builtin.faultId :: later ∧
      seen before = some ⟨false, 1.0, some "injected backend failure"⟩ ∧
      ∀ mid, mid <+: later →
        seen (before ++ .resetCircuit Builtin.faultId :: mid) =
            some ⟨false, 1.0, some "injected backend failure"⟩ ∧
          (status (before ++ .resetCircuit Builtin.faultId :: mid)).failures = 0 := by
  intro after seen status
  have hd : ∀ b, .registry (.register b) ∈ tripped → b.Attributable := by
    intro b hb
    simp only [tripped, List.mem_cons, Deed.registry.injEq, Registry.Deed.register.injEq,
      reduceCtorEq, List.not_mem_nil, or_false] at hb
    exact hb ▸ faultBackend_attributable
  have hseen : seen tripped = some ⟨false, 1.0, some "injected backend failure"⟩ := rfl
  have hzero : (status tripped).failures = 0 := rfl
  have hl := last_outcome_agrees Directory.agentId .standard .standard none tripped hd
    Builtin.faultId 3.0
  exact ⟨hd, hseen, hzero, (hl.2.2.2 _ hseen rfl).resolve_left (by rw [hzero]; decide)⟩

end Gateway

end Switchboard
