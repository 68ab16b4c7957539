import Switchboard.Catalogue.Builtin
import Switchboard.Proofs.Dispatch.Effect
import Switchboard.Proofs.Gateway.Run
import Switchboard.Proofs.Ledger.Retention
import Switchboard.Proofs.Probe.Keeping

namespace Switchboard

theorem Ledger.Gains.eq_add {l l' : Ledger} {time : Instant} {t : Trace} (h : l.Gains l' time t) :
    l' = (l.add time t).2 := by
  obtain ⟨bound, supply, records, issued⟩ := l'
  obtain ⟨hb, hs, hi, hr⟩ := h
  dsimp only at hb hs hi hr
  rw [hb, hs, hi, hr]
  rfl

structure Attempt where
  exchange : Exchange
  moment : Moment
  call : Call

namespace Attempt

def result (a : Attempt) : Except Fault String × Exchange :=
  (a.exchange.dispatch a.moment a.call).val

def answer (a : Attempt) : Except Fault String := a.result.1

def admission (a : Attempt) : Admission := a.exchange.admitted a.moment a.call

def passed (a : Attempt) : Bool := (a.exchange.resolve a.call).isOk

def mute (a : Attempt) : Bool :=
  match a.answer with
  | .error (.uncuttable _) => true
  | _ => false

def noted (a : Attempt) : Bool := a.passed && !a.mute

def backendFailure (c : Call) (message : String) : Refusal :=
  .of .backendFailure ("Tool call failed (" ++ c.backend ++ "/" ++ c.tool ++ "): " ++ message)

inductive Leaves (a : Attempt) : Trace → Prop
  | shut {e} : a.admission.allowed = false → a.answer = .error e →
      (∀ refusal, e = .refused refusal → refusal.kind = .circuitOpen) →
      Leaves a (a.call.failure (.real 0.0) a.admission.state "circuit_open")
  | misfit {tool report} : a.exchange.Entitled a.call tool → a.admission.allowed = true →
      (tool.react a.call.payload).outcome = .rejected report →
      a.answer = .error (.refused (.of .invalidArguments report.text)) →
      Leaves a (a.call.failure a.call.latency a.admission.state "invalid_arguments")
  | failed {tool kind message} : a.exchange.Entitled a.call tool → a.admission.allowed = true →
      (tool.react a.call.payload).outcome = .raised kind message →
      a.answer = .error (.refused (backendFailure a.call message)) →
      Leaves a (a.call.failure a.call.latency a.admission.state "upstream_failure")
  | returned {tool output} : a.exchange.Entitled a.call tool → a.admission.allowed = true →
      (tool.react a.call.payload).outcome = .returned output → a.answer = .ok output →
      Leaves a ⟨a.call.backend, a.call.tool, a.call.payload, Call.preview output, a.call.latency,
        true, a.admission.state, none⟩

def Textual (a : Attempt) : Prop :=
  ∀ tool kind, a.exchange.Entitled a.call tool →
    (tool.react a.call.payload).outcome ≠ .returnedOther kind

structure Records (a : Attempt) (r : TraceRecord) : Prop where
  time : r.time = a.moment.wall
  exit : a.Leaves r.trace
  ok : r.trace.ok = true ↔ ∃ output, a.answer = .ok output
  state : r.trace.state = a.admission.state
  kind : ∀ refusal, a.answer = .error (.refused refusal) →
    r.trace.errorKind = some refusal.kind.name

variable {a : Attempt} {t : Trace} {tool : Tool}

theorem Leaves.ok_iff (h : a.Leaves t) : t.ok = true ↔ ∃ output, a.answer = .ok output := by
  cases h with
  | shut _ he _ => simp [Call.failure, he]
  | misfit _ _ _ he => simp [Call.failure, he]
  | failed _ _ _ he => simp [Call.failure, he]
  | returned _ _ _ he => simp [he]

theorem Leaves.state_eq (h : a.Leaves t) : t.state = a.admission.state := by
  cases h <;> rfl

theorem Leaves.kind_eq (h : a.Leaves t) {refusal : Refusal}
    (hr : a.answer = .error (.refused refusal)) : t.errorKind = some refusal.kind.name := by
  cases h with
  | shut _ he hk =>
      rw [hr] at he
      rw [hk refusal (Except.error.inj he).symm]
      rfl
  | misfit _ _ _ he =>
      rw [hr] at he
      cases he
      rfl
  | failed _ _ _ he =>
      rw [hr] at he
      cases he
      rfl
  | returned _ _ _ he =>
      rw [hr] at he
      cases he

theorem Leaves.latency_real (h : a.Leaves t) : ∃ x, t.latencyMs = .real x := by
  cases h <;> exact ⟨_, rfl⟩

theorem Leaves.not_ok_of_shut (h : a.Leaves t) (hk : t.errorKind = some "circuit_open") :
    t.ok = false := by
  cases h with
  | returned _ _ _ _ => cases hk
  | _ => rfl

theorem Leaves.records (h : a.Leaves t) (id : String) : a.Records ⟨id, a.moment.wall, t⟩ where
  time := rfl
  exit := h
  ok := h.ok_iff
  state := h.state_eq
  kind _ hr := h.kind_eq hr

theorem passed_iff : a.passed = true ↔ ∃ tool, a.exchange.Entitled a.call tool := by
  simp only [← Exchange.resolve_eq_ok_iff, passed]
  cases a.exchange.resolve a.call with
  | error refusal => simp [Except.isOk, Except.toBool]
  | ok tool => simp [Except.isOk, Except.toBool]

theorem noted_of_answer (hp : a.passed = true) (h : ∀ kind, a.answer ≠ .error (.uncuttable kind)) :
    a.noted = true := by
  have hm : a.mute = false := by
    unfold mute
    split
    · next kind he => exact absurd he (h kind)
    · rfl
  rw [noted, hp, hm]
  rfl

theorem result_of_refused (h : a.exchange.Entitled a.call tool)
    (ha : a.admission.allowed = false) : a.result = a.exchange.refuseOpen a.moment a.call := by
  rw [result, ← Exchange.watched_fst, (Exchange.watched_of_refused h ha).1,
    Exchange.checked_of_refused ha]

theorem traced_of_refused (h : a.exchange.Entitled a.call tool)
    (ha : a.admission.allowed = false) :
    a.noted = true ∧ ∃ t, a.Leaves t ∧
      a.exchange.ledger.Gains a.result.2.ledger a.moment.wall t := by
  have hresult := result_of_refused h ha
  have hstate : a.admission.state = .opened :=
    congrArg (fun r => r.1.state) (Breaker.admission_of_refused ha)
  have hsnd : a.result.2 =
      a.exchange.addTrace a.moment (a.call.failure (.real 0.0) .opened "circuit_open") := by
    rw [hresult, Exchange.refuseOpen_snd]
  have hgains : a.exchange.ledger.Gains a.result.2.ledger a.moment.wall
      (a.call.failure (.real 0.0) a.admission.state "circuit_open") := by
    rw [hsnd, hstate]
    exact Ledger.gains_add _ _ _
  have hanswer : a.answer = (a.exchange.refuseOpen a.moment a.call).1 := congrArg Prod.fst hresult
  have hp := passed_iff.2 ⟨tool, h⟩
  rcases a.exchange.refuseOpen_cases a.moment a.call with he | ⟨refusal, he, hk⟩
  · rw [he] at hanswer
    exact ⟨noted_of_answer hp (by simp [hanswer]), _,
      .shut ha hanswer (fun _ h => by cases h), hgains⟩
  · rw [he] at hanswer
    exact ⟨noted_of_answer hp (by simp [hanswer]), _,
      .shut ha hanswer (fun _ h => by cases h; exact hk), hgains⟩

theorem traced_of_admitted (h : a.exchange.Entitled a.call tool)
    (ha : a.admission.allowed = true) :
    (a.noted = false ∧ a.result.2.ledger = a.exchange.ledger ∧ (a.Textual → a.passed = false)) ∨
      (a.noted = true ∧ ∃ t, a.Leaves t ∧
        a.exchange.ledger.Gains a.result.2.ledger a.moment.wall t) := by
  have hp := passed_iff.2 ⟨tool, h⟩
  have hresult : a.result = ({ a.exchange.checked a.moment a.call with
      registry := a.exchange.registry.setHealth a.call.backend
        (tool.react a.call.payload).health }.settle a.moment a.call a.admission.state
          (tool.react a.call.payload).outcome).val := by
    rw [result, ← Exchange.watched_fst, (Exchange.watched_of_admitted h ha).1]
    rfl
  cases ho : (tool.react a.call.payload).outcome with
  | returned output =>
      rw [ho] at hresult
      have hanswer : a.answer = .ok output := congrArg Prod.fst hresult
      refine .inr ⟨noted_of_answer hp (by simp [hanswer]), _, .returned h ha ho hanswer, ?_⟩
      rw [hresult]
      exact Ledger.gains_add _ _ _
  | returnedOther kind =>
      rw [ho] at hresult
      have hanswer : a.answer = .error (.uncuttable kind) := congrArg Prod.fst hresult
      left
      refine ⟨by simp [noted, mute, hanswer], ?_, fun ht => absurd ho (ht tool kind h)⟩
      rw [hresult]
      rfl
  | rejected report =>
      rw [ho] at hresult
      have hanswer : a.answer = .error (.refused (.of .invalidArguments report.text)) :=
        congrArg Prod.fst hresult
      refine .inr ⟨noted_of_answer hp (by simp [hanswer]), _, .misfit h ha ho hanswer, ?_⟩
      rw [hresult]
      exact Ledger.gains_add _ _ _
  | raised kind message =>
      rw [ho] at hresult
      have hanswer : a.answer = .error (.refused (backendFailure a.call message)) :=
        congrArg Prod.fst hresult
      refine .inr ⟨noted_of_answer hp (by simp [hanswer]), _, .failed h ha ho hanswer, ?_⟩
      rw [hresult]
      exact Ledger.gains_add _ _ _

theorem traced (a : Attempt) :
    (a.noted = false ∧ a.result.2.ledger = a.exchange.ledger ∧ (a.Textual → a.passed = false)) ∨
      (a.noted = true ∧ ∃ t, a.Leaves t ∧
        a.exchange.ledger.Gains a.result.2.ledger a.moment.wall t) := by
  by_cases hp : ∃ tool, a.exchange.Entitled a.call tool
  · obtain ⟨tool, h⟩ := hp
    cases ha : a.admission.allowed with
    | false => exact .inr (traced_of_refused h ha)
    | true => exact traced_of_admitted h ha
  · left
    have hpassed : a.passed = false := Bool.eq_false_iff.2 fun h => hp (passed_iff.1 h)
    have hsame : a.result.2 = a.exchange := by
      rw [result, ← Exchange.watched_fst]
      exact (Exchange.watched_of_not_entitled fun tool h => hp ⟨tool, h⟩).1
    exact ⟨by rw [noted, hpassed, Bool.false_and], by rw [hsame], fun _ => hpassed⟩

theorem noted_eq_passed (h : a.Textual) : a.noted = a.passed := by
  rcases a.traced with ⟨hn, -, hp⟩ | ⟨hn, -⟩
  · rw [hn, hp h]
  · have hp : a.passed = true := Bool.and_elim_left hn
    rw [hn, hp]

end Attempt

namespace Exchange

theorem probes_keep_ledger (x : Exchange) (s : ProbeSetting) :
    s.Keeps (fun y => y.ledger = x.ledger) fun _ => True where
  course _ := trivial
  enter y o hy _ := (ledger_enter y s.bound s.now o).trans hy

end Exchange

namespace Gateway

variable {ids : Nat → String} {g : Gateway} {deed : Deed} {a : Attempt}

def attempt? (g : Gateway) : Deed → Option Attempt
  | .dispatch m c => some ⟨g.exchange, m, c⟩
  | .call m c tick => match g.directory.callerScopes c.agent with
      | .ok scopes =>
          some ⟨g.exchange, m, ⟨c.backend, c.tool, .obj c.arguments, scopes, tick⟩⟩
      | .error _ => none
  | _ => none

def attempts (ids : Nat → String) (g : Gateway) : List Deed → List Attempt
  | [] => []
  | deed :: deeds => (g.attempt? deed).toList ++ attempts ids (act ids g deed) deeds

theorem attempts_concat (ids : Nat → String) (g : Gateway) (deeds : List Deed) (deed : Deed) :
    attempts ids g (deeds ++ [deed]) =
      attempts ids g deeds ++ ((run ids g deeds).attempt? deed).toList := by
  induction deeds generalizing g with
  | nil => simp [attempts, run]
  | cons first deeds ih =>
      rw [List.cons_append, attempts, ih, attempts, List.append_assoc]
      rfl

theorem ledger_act (ids : Nat → String) (g : Gateway) (deed : Deed) :
    (g.attempt? deed = none ∧ (act ids g deed).exchange.ledger = g.exchange.ledger) ∨
      ∃ a, g.attempt? deed = some a ∧ a.exchange = g.exchange ∧
        (act ids g deed).exchange = a.result.2 := by
  cases deed with
  | dispatch m c => exact .inr ⟨_, rfl, rfl, rfl⟩
  | call m c tick =>
      rw [act, attempt?]
      cases hc : g.directory.callerScopes c.agent with
      | error refusal =>
          rw [call_of_error hc]
          exact .inl ⟨rfl, rfl⟩
      | ok scopes =>
          rw [call_of_ok hc]
          exact .inr ⟨_, rfl, rfl, rfl⟩
  | probeAll course m =>
      exact .inl ⟨rfl, (g.watch.gives_everything.probeAll course m.now
        (g.exchange.probes_keep_ledger _) rfl).2.2⟩
  | pass course m ms =>
      exact .inl ⟨rfl, (g.watch.gives_everything.pass course m.now
        (g.exchange.probes_keep_ledger _) rfl ms).2.2⟩
  | _ => exact .inl ⟨rfl, rfl⟩

theorem retains_run (ids : Nat → String) (g : Gateway) {capacity : Option Nat}
    (hg : g.exchange.ledger.Retains capacity []) (deeds : List Deed) :
    ∃ all, List.Forall₂ Attempt.Records ((attempts ids g deeds).filter Attempt.noted) all ∧
      (run ids g deeds).exchange.ledger.Retains capacity all := by
  induction deeds using List.reverseRecOn with
  | nil => exact ⟨[], .nil, hg⟩
  | append_singleton deeds deed ih =>
      obtain ⟨all, hall, hr⟩ := ih
      rw [attempts_concat, run_concat, List.filter_append]
      rcases ledger_act ids (run ids g deeds) deed with ⟨hn, hl⟩ | ⟨a, hs, hx, hl⟩
      · rw [hn, hl]
        exact ⟨all, by simpa using hall, hr⟩
      · rw [hs, hl]
        rcases a.traced with ⟨hn, hsame, -⟩ | ⟨hn, t, ht, hgains⟩
        · rw [hsame, hx]
          exact ⟨all, by simpa [hn] using hall, hr⟩
        · rw [hx] at hgains
          rw [hgains.eq_add]
          refine ⟨_, List.rel_append hall ?_, hr.add a.moment.wall t⟩
          simpa [hn] using ht.records _

theorem exists_attempt {as : List Attempt} {all : List TraceRecord}
    (h : List.Forall₂ Attempt.Records as all) {r : TraceRecord} (hr : r ∈ all) :
    ∃ a, Attempt.Records a r := by
  induction h with
  | nil => cases hr
  | @cons a first _ _ ha _ ih =>
      rcases List.mem_cons.1 hr with rfl | hr
      · exact ⟨a, ha⟩
      · exact ih hr

theorem traces_of_dispatches (ids : Nat → String) (supply : IdSupply) (limits : CircuitLimits)
    (plan : ProbePlan) (bound : Bool) (capacity : Option Nat) (deeds : List Deed) :
    let g := startFrom supply limits plan bound capacity
    let made := attempts ids g deeds
    let l := (run ids g deeds).exchange.ledger
    (∀ a : Attempt, a.Textual → a.noted = a.passed) ∧
    ∃ all, List.Forall₂ Attempt.Records (made.filter Attempt.noted) all ∧
      l.records <:+ all ∧ l.records.length = capacity.elim all.length (min · all.length) ∧
      (all.map TraceRecord.id).Nodup ∧
      (∀ r ∈ l.records, l.find r.id = .ok r) ∧
      (∀ r ∈ all, r ∉ l.records → l.find r.id = .error (.unknownTrace r.id)) ∧
      (∀ id, (∀ r ∈ all, r.id ≠ id) → l.find id = .error (.unknownTrace id)) ∧
      (l.records.length ≤ 2 ^ 1023 → ∃ s, l.summary = .ok s ∧ Ledger.Reports l.records s) := by
  intro g made l
  obtain ⟨all, hall, hr⟩ := retains_run ids g (Ledger.retains_start supply capacity) deeds
  have hleaves : ∀ r ∈ l.records, ∃ a : Attempt, a.Leaves r.trace := by
    intro r hm
    obtain ⟨a, ha⟩ := exists_attempt hall (hr.suffix.subset hm)
    exact ⟨a, ha.exit⟩
  refine ⟨fun _ => Attempt.noted_eq_passed, all, hall, hr.suffix, hr.length, hr.nodup,
    fun _ => hr.find_retained, fun _ => hr.find_evicted, ?_, ?_⟩
  · intro id hid
    exact Ledger.find_of_forall_ne fun r hm => hid r (hr.suffix.subset hm)
  · refine Ledger.summary_reports (fun r hm => ?_) fun r hm hk => ?_
    · obtain ⟨a, ha⟩ := hleaves r hm
      exact ha.latency_real
    · obtain ⟨a, ha⟩ := hleaves r hm
      exact ha.not_ok_of_shut hk

def overrun : List Deed :=
  [.registry (.register Builtin.faultBackend),
    .configure Builtin.faultId ⟨1, 1000, le_rfl⟩,
    .dispatch ⟨1.0, .epoch⟩ ⟨Builtin.faultId, "fault_call", .obj [("fail", .bool true)], none, 0.0⟩,
    .dispatch ⟨1.5, .epoch⟩ ⟨Builtin.faultId, "missing", .obj [], none, 0.0⟩,
    .dispatch ⟨1.5, .epoch⟩ ⟨Builtin.faultId, "fault_call", .obj [], none, 0.0⟩,
    .dispatch ⟨3.0, .epoch⟩ ⟨Builtin.faultId, "fault_call", .obj [], none, 0.0⟩]

theorem traces_of_overrun :
    (attempts Directory.agentId (startFrom .traces .standard .standard true (some 2))
      overrun).length = 4 ∧
    ((run Directory.agentId (startFrom .traces .standard .standard true (some 2))
      overrun).exchange.ledger.records.map TraceRecord.id) = ["trace-2", "trace-3"] ∧
    ∃ all s,
      List.Forall₂ Attempt.Records ((attempts Directory.agentId
        (startFrom .traces .standard .standard true (some 2)) overrun).filter Attempt.noted) all ∧
      (run Directory.agentId (startFrom .traces .standard .standard true (some 2))
        overrun).exchange.ledger.records <:+ all ∧
      (run Directory.agentId (startFrom .traces .standard .standard true (some 2))
        overrun).exchange.ledger.summary = .ok s ∧ s.total = 2 ∧ s.rejections = 1 := by
  have hmade : (attempts Directory.agentId (startFrom .traces .standard .standard true (some 2))
      overrun).length = 4 := by decide +kernel
  have hids : ((run Directory.agentId (startFrom .traces .standard .standard true (some 2))
      overrun).exchange.ledger.records.map TraceRecord.id) = ["trace-2", "trace-3"] := by
    decide +kernel
  have hkinds : ((run Directory.agentId (startFrom .traces .standard .standard true (some 2))
      overrun).exchange.ledger.records.map fun r => r.trace.errorKind) =
      [some "circuit_open", none] := by
    decide +kernel
  obtain ⟨-, all, hall, hs, -, -, -, -, -, hsummary⟩ := traces_of_dispatches Directory.agentId
    .traces .standard .standard true (some 2) overrun
  generalize (run Directory.agentId (startFrom .traces .standard .standard true (some 2))
    overrun).exchange.ledger = l at *
  have hlength : l.records.length = 2 := by
    rw [← List.length_map, hids]
    rfl
  have hpow (k : Nat) (hk : k ≠ 0) : 2 ≤ 2 ^ k := Nat.le_self_pow hk 2
  obtain ⟨s, hsome, hreports⟩ := hsummary (hlength ▸ hpow 1023 (by norm_num))
  refine ⟨hmade, hids, all, s, hall, hs, hsome, hreports.total.trans hlength, ?_⟩
  have hcount : (l.records.map fun r => r.trace.errorKind).countP
      (fun k => k = some "circuit_open") = s.rejections := by
    rw [List.countP_map, hreports.rejections]
    rfl
  rw [← hcount, hkinds]
  rfl

end Gateway

end Switchboard
