import Switchboard.Proofs.Dispatch.Wait
import Switchboard.Proofs.Service.Keeping

namespace Switchboard

theorem Refusal.status_of_kind {kind : RefusalKind} (h : kind ≠ .circuitOpen) (message : String) :
    (of kind message).status ≠ 503 := by
  cases kind <;> simp_all [of, RefusalKind.status]

theorem Directory.refusal_of_callerScopes {d : Directory} {agent : Option String}
    {refusal : Refusal} (h : d.callerScopes agent = .error refusal) :
    ∃ kind message, kind ≠ .circuitOpen ∧ refusal = .of kind message := by
  cases agent with
  | none => cases h
  | some id =>
      rw [callerScopes] at h
      split at h
      · cases h
        exact ⟨_, _, by decide, rfl⟩
      · cases h

namespace Exchange

variable {x : Exchange} {m : Moment} {c : Call} {refusal : Refusal}

theorem shut_of_unavailable (h : (x.dispatch m c).val.1 = .error (.refused refusal))
    (hs : refusal.status = 503) : (x.admitted m c).allowed = false ∧
      ∃ wait, x.breaker.retryAfter c.backend m.now = .ok wait ∧
        refusal.retryAfter = some (.real wait) := by
  rcases refusal_of_dispatch h with ⟨kind, message, hkind, rfl⟩ | ⟨ha, wait, hwait, rfl⟩
  · exact absurd hs (Refusal.status_of_kind hkind message)
  · exact ⟨ha, wait, hwait, rfl⟩

end Exchange

namespace Service

namespace Response

theorem status_of_detail {status : Int} {j : Json} (h : (detail status j).status = 503) :
    status = 503 := by
  rw [detail] at h
  split at h
  · exact h
  · cases h

theorem status_ok (j : Json) : (ok j).status ≠ 503 := by
  rw [ok]
  split <;> simp [broken]

theorem refused_of_unavailable {α : Type} {f : α → Json} {e : Except Fault α}
    (h : (ofExcept f e).status = 503) : ∃ refusal, e = .error (.refused refusal) ∧
      refusal.status = 503 ∧ ∀ x, refusal.retryAfter = some x →
        ∃ k, x.round? = some k ∧ (ofExcept f e).retryAfter = some (max 1 k) := by
  cases e with
  | ok a => exact absurd h (status_ok _)
  | error fault =>
      cases fault with
      | refused refusal =>
          refine ⟨refusal, rfl, ?_⟩
          change (ofRefusal refusal).status = 503 at h
          change _ ∧ ∀ x, _ → ∃ k, _ ∧ (ofRefusal refusal).retryAfter = _
          rw [ofRefusal] at h ⊢
          cases hx : refusal.retryAfter with
          | none =>
              rw [hx] at h
              exact ⟨status_of_detail h, fun x hx => by cases hx⟩
          | some x =>
              rw [hx] at h
              dsimp only at h ⊢
              cases hk : x.round? with
              | none =>
                  rw [hk] at h
                  cases h
              | some k =>
                  rw [hk] at h
                  refine ⟨status_of_detail h, fun y hy => ?_⟩
                  cases hy
                  exact ⟨k, hk, rfl⟩
      | _ => cases h

end Response

def Request.Submits {α : Type} (q : Request) (e : Endpoint) (read : Reader α) (a : α) : Prop :=
  Endpoint.locate q = .found e ∧ q.body.read? read = some (.passed a)

def Visit.Calls (v : Visit) (id : String) : Prop :=
  ∃ q tick call, v.happening = .request q tick ∧ Endpoint.locate q = .found .call ∧
    q.body.read? (AgentCall.read .attributes) = some (.passed call) ∧ call.backend = id

variable {s : Service} {v : Visit} {id : String} {r : Response}

theorem respond_call {q : Request} {tick : Float} {c : AgentCall}
    (h : q.Submits .call (AgentCall.read .attributes) c) :
    (s.respond q tick).val.1 =
      Response.ofExcept (callJson c) (s.gateway.call s.moment c tick).val.1 := by
  rw [respond, h.1]
  simp only [Service.answer, withBody, h.2]
  rfl

theorem Visit.Calls.answer (hv : v.Calls id) (hr : (s.visit v).1 = some r) :
    ∃ call tick, call.backend = id ∧
      r.status = (Response.ofExcept (callJson call)
        (s.gateway.call v.moment call tick).val.1).status ∧
      r.retryAfter = (Response.ofExcept (callJson call)
        (s.gateway.call v.moment call tick).val.1).retryAfter := by
  obtain ⟨q, tick, call, hh, hlocate, hbody, hid⟩ := hv
  have hanswer : ((s.atMoment v.moment).respond q tick).val.1 = _ := respond_call ⟨hlocate, hbody⟩
  rw [visit, hh] at hr
  dsimp only at hr
  rw [hanswer] at hr
  refine ⟨call, tick, hid, ?_⟩
  rw [← Option.some.inj hr]
  split
  · exact ⟨rfl, rfl⟩
  · exact ⟨rfl, rfl⟩

theorem circuit_of_unavailable (hv : v.Calls id) (hr : (s.visit v).1 = some r)
    (h : r.status = 503) : ∃ c wait k, s.breaker.circuits.get? id = some c ∧ c.state = .opened ∧
      c.rested v.moment.now = false ∧ c.retryAfter v.moment.now = .ok wait ∧
      (Number.real wait).round? = some k ∧ r.retryAfter = some (max 1 k) := by
  obtain ⟨call, tick, rfl, hstatus, htold⟩ := hv.answer hr
  rw [hstatus] at h
  rw [htold]
  obtain ⟨refusal, hrefused, hs, hround⟩ := Response.refused_of_unavailable h
  cases hscopes : s.gateway.directory.callerScopes call.agent with
  | error found =>
      rw [Gateway.call_of_error hscopes] at hrefused
      cases hrefused
      obtain ⟨kind, message, hkind, rfl⟩ := Directory.refusal_of_callerScopes hscopes
      exact absurd hs (Refusal.status_of_kind hkind message)
  | ok scopes =>
      rw [Gateway.call_of_ok hscopes] at hrefused
      obtain ⟨hshut, wait, hwait, htell⟩ := Exchange.shut_of_unavailable hrefused hs
      obtain ⟨c, hc, hopen, hunrested⟩ := Breaker.circuit_of_refused hshut
      obtain ⟨k, hk, hheader⟩ := hround _ htell
      rw [Breaker.retryAfter, hc] at hwait
      exact ⟨c, wait, k, hc, hopen, hunrested, hwait, hk, hheader⟩

/-- Waiting for one second more than told is enough, if nothing is too large to be told apart by
quarters of a second; and so is any time after which the circuit has rested. -/
theorem one_second_past_told_suffices {env : List (String × String)} {watching : Bool}
    (hs : start env watching = .ok s) {vs : List Visit}
    (hclock : ∀ w ∈ vs, Number.isFinite w.moment.now = true) (hv : v.Calls id)
    (hr : ((s.after vs).visit v).1 = some r) (h : r.status = 503) :
    ∃ c n, (s.after vs).breaker.circuits.get? id = some c ∧ r.retryAfter = some n ∧ 1 ≤ n ∧
      (∃ wait ω, c.retryAfter v.moment.now = .ok wait ∧ Number.value wait = (ω : ℝ) ∧
        ω ≤ n + 1 / 2) ∧
      ∀ ws w r', w.Calls id →
        (s.after vs).breaker.Spares id (s.after (vs ++ v :: ws)).breaker →
        ((s.after (vs ++ v :: ws)).visit w).1 = some r' →
        (c.rested w.moment.now = true → r'.status ≠ 503) ∧
        (c.limits.resetMs ≤ 2 ^ 52 → n ≤ 2 ^ 50 → ∀ τ μ : ℝ, Number.value v.moment.now = τ →
          Number.value w.moment.now = μ → τ + n + 1 ≤ μ → r'.status ≠ 503) := by
  obtain ⟨limits, hbreaker⟩ := breaker_start hs
  have hstandard (Q : Float → Prop) (us : List Visit) (hq : ∀ u ∈ us, Q u.moment.now) :
      (s.after us).breaker.Standard limits Q := by
    refine after_keeps (fun u hu => Breaker.Standard.keeps (hq u hu)) ?_
    rw [hbreaker]
    exact Breaker.standard_start limits Q
  obtain ⟨c, wait, k, hc, hopen, -, hwait, hk, htold⟩ := circuit_of_unavailable hv hr h
  have hhere := hstandard (fun t => Number.isFinite t = true) vs hclock
  obtain ⟨failed, hlast, hfinite⟩ := hhere.failed id c hc
  have hkn : k ≤ max 1 k := le_max_right 1 k
  refine ⟨c, max 1 k, hc, htold, le_max_left 1 k, ?_, ?_⟩
  · obtain ⟨ω, hω, hclose⟩ := Number.round?_close hk
    have hkn : (k : ℝ) ≤ (max 1 k : Int) := by exact_mod_cast hkn
    exact ⟨wait, ω, hwait, hω, by linarith [(abs_le.1 hclose).1]⟩
  · intro ws w r' hw hspares hr'
    have hrested : c.rested w.moment.now = true → r'.status ≠ 503 := by
      intro hrested h'
      obtain ⟨c', -, -, hc', -, hunrested, -⟩ := circuit_of_unavailable hw hr' h'
      have hthere := hstandard (fun _ => True) (vs ++ v :: ws) fun _ _ => trivial
      obtain ⟨t, ht, -⟩ := hthere.failed id c' hc'
      have hsame : c'.rested w.moment.now = c.rested w.moment.now := by
        rw [Circuit.rested, Circuit.rested, Circuit.elapsed, Circuit.elapsed,
          hspares.lastFailure hc hc' (by simp [ht]), hthere.limits id c' hc', hhere.limits id c hc]
      rw [hsame, hrested] at hunrested
      cases hunrested
    refine ⟨hrested, fun hreset hsmall τ μ ht hu hlater => hrested ?_⟩
    obtain ⟨φ, hf⟩ := Number.value_of_isFinite hfinite
    exact Circuit.rested_of_told hopen hlast hf ht hu hreset hwait hk hkn (by omega) hsmall hlater

theorem exists_start (env : List (String × String)) (watching : Bool) (P : Service → Prop)
    [DecidablePred P] (h : (start env watching).toOption.any P = true) :
    ∃ s, start env watching = .ok s ∧ P s := by
  cases hs : start env watching with
  | error e =>
      rw [hs] at h
      cases h
  | ok s =>
      rw [hs] at h
      exact ⟨s, rfl, of_decide_eq_true h⟩

def hasty : List (String × String) :=
  [("TOOL_GATEWAY_FAILURE_THRESHOLD", "1"), ("TOOL_GATEWAY_RESET_TIMEOUT_MS", "1400")]

def faultCall (now : Float) (arguments : List (String × Json)) : Visit :=
  ⟨⟨now, .epoch⟩, .request ⟨.post, ⟨["v1", "tools", "call"], []⟩, .json (.obj
    [("backend_id", .str Builtin.faultId), ("tool_name", .str "fault_call"),
      ("arguments", .obj arguments)])⟩ 0.0⟩

def failing : Visit := faultCall 1000.0 [("fail", .bool true)]

def refused : Visit := faultCall 1000.0 []

def answerAt (s : Service) (vs : List Visit) (now : Float) : Option (Int × Option Int) :=
  ((s.after vs).visit (faultCall now [])).1.map fun r => (r.status, r.retryAfter)

theorem calls_faultCall (now : Float) : (faultCall now []).Calls Builtin.faultId :=
  ⟨_, _, ⟨Builtin.faultId, "fault_call", [], none⟩, rfl, by decide +kernel, by rfl, rfl⟩

theorem one_second_past_told_hasty : ∃ s r r', start hasty true = .ok s ∧
    ((s.after [failing]).visit refused).1 = some r ∧ r.retryAfter = some 1 ∧
    ((s.after [failing, refused]).visit (faultCall 1002.0 [])).1 = some r' ∧ r'.status ≠ 503 := by
  obtain ⟨s, hs, hrefused, hreset, hspares, hlater⟩ := exists_start hasty true
    (fun s => s.answerAt [failing] 1000.0 = some (503, some 1) ∧
      ((s.after [failing]).breaker.circuits.get? Builtin.faultId).any
        (fun c => c.limits.resetMs ≤ 2 ^ 52) = true ∧
      (s.after [failing, refused]).breaker.failedAt? Builtin.faultId =
        (s.after [failing]).breaker.failedAt? Builtin.faultId ∧
      (s.answerAt [failing, refused] 1002.0).isSome = true) (by decide +kernel)
  obtain ⟨r, hr, htold⟩ := Option.map_eq_some_iff.1 hrefused
  obtain ⟨hstatus, hheader⟩ := Prod.mk.inj htold
  obtain ⟨r', hr'⟩ := Option.isSome_iff_exists.1 (Option.isSome_map.symm.trans hlater)
  have hclock : ∀ w ∈ [failing], Number.isFinite w.moment.now = true := by decide +kernel
  obtain ⟨c, n, hc, hn, -, -, hwait⟩ :=
    one_second_past_told_suffices hs hclock (calls_faultCall 1000.0) hr hstatus
  obtain rfl : n = 1 := Option.some.inj (hn.symm.trans hheader)
  rw [hc] at hreset
  have ht : Number.value 1000.0 = ((1000 : ℝ) : EReal) := by
    rw [Number.value, Number.unpack_thousand]
    norm_num [Number.worth, Number.signed, Number.magnitude]
  have hu : Number.value 1002.0 = ((1002 : ℝ) : EReal) := by
    have hunpack : (1002.0 : Float).toModel.unpack =
        .finite .positive 8813685208252416 (-43) (by norm_num) := by rfl
    rw [Number.value, hunpack]
    norm_num [Number.worth, Number.signed, Number.magnitude]
  exact ⟨s, r, r', hs, hr, hheader, hr', (hwait [] _ r' (calls_faultCall 1002.0) (.inr hspares)
    hr').2 (of_decide_eq_true hreset) (by norm_num) 1000 1002 ht hu (by norm_num)⟩

theorem told_wait_falls_short : ∃ s, start hasty true = .ok s ∧
    s.answerAt [failing] 1000.0 = some (503, some 1) ∧
    s.answerAt [failing, refused] 1001.0 = some (503, some 1) := by
  exact exists_start hasty true _ (by decide +kernel)

end Service

end Switchboard
