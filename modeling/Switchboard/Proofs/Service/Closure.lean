import Switchboard.Proofs.Gateway.Closure
import Switchboard.Proofs.Service.Retry

namespace Switchboard

theorem Breaker.Standard.isFinite_retryAfter {limits : CircuitLimits} {b : Breaker} {id : String}
    {now wait : Float} (hb : b.Standard limits fun t => Number.isFinite t = true ∧ t ≤ now)
    (h : b.retryAfter id now = .ok wait) : Number.isFinite wait = true := by
  rw [retryAfter] at h
  cases hc : b.circuits.get? id with
  | none =>
      rw [hc] at h
      cases h
      exact Number.isFinite_of_value Number.value_zero
  | some c =>
      rw [hc] at h
      obtain ⟨failed, hlast, hfinite, hle⟩ := hb.failed id c hc
      exact c.isFinite_retryAfter hlast hfinite hle h

namespace Json

theorem depth_strings (l : List String) : (strings l).depth ≤ 2 := by
  have hitems : itemsDepth (l.map .str) ≤ 1 := by
    induction l with
    | nil => exact Nat.zero_le 1
    | cons s l ih =>
        rw [List.map_cons, itemsDepth]
        exact max_le le_rfl ih
  rw [strings, depth]
  omega

theorem depth_ofOption {α : Type} {f : α → Json} (hf : ∀ a, (f a).depth = 1) (o : Option α) :
    (ofOption f o).depth = 1 := by
  cases o with
  | none => rfl
  | some a => exact hf a

end Json

theorem Identity.depth_toJson (i : Identity) : i.toJson.depth ≤ 4 := by
  have hscopes := Json.depth_strings i.mandate.scopes
  have hcalls := Json.depth_ofOption (f := Json.ofNat) (fun _ => rfl) i.mandate.budget.maxCalls
  have hcost := Json.depth_ofOption (f := Json.real) (fun _ => rfl) i.mandate.budget.maxCost
  have httl := Json.depth_ofOption (f := Json.real) (fun _ => rfl) i.mandate.budget.ttlHours
  have hroot := Json.depth_ofOption (f := Json.str) (fun _ => rfl) i.mandate.root
  have hparent := Json.depth_ofOption (f := Json.str) (fun _ => rfl) i.mandate.parent
  have hexpires :=
    Json.depth_ofOption (f := fun t : Instant => Json.str t.text) (fun _ => rfl) i.expires
  simp only [toJson, Mandate.toJson, Budget.toJson, Json.depth, Json.membersDepth, Json.ofNat] at *
  omega

namespace Service

namespace Response

variable {α : Type} {f : α → Json} {e : Except Fault α} {r : Response}

def Fails (r : Response) : Prop := { r with retryAfter := none } = broken

def Unsent (f : α → Json) : Except Fault α → Prop
  | .ok a => (f a).legible = false
  | .error (.refused refusal) => refusal.body.legible = false
  | .error _ => False

inductive Conveys (f : α → Json) : Except Fault α → Response → Prop
  | ok (a : α) : Conveys f (.ok a) ⟨200, .json (f a).definite, none⟩
  | refused {refusal : Refusal} : refusal.retryAfter = none →
      Conveys f (.error (.refused refusal))
        ⟨refusal.status, .json (.obj [("detail", refusal.body)]), none⟩
  | hinted {refusal : Refusal} {x : Number} {n : Int} : refusal.retryAfter = some x →
      x.round? = some n → Conveys f (.error (.refused refusal))
        ⟨refusal.status, .json (.obj [("detail", refusal.body)]), some (max 1 n)⟩

structure Reports (f : α → Json) (e : Except Fault α) (r : Response) : Prop where
  conveys : Conveys f e r ∨ r.Fails
  fails : r.Fails ↔ (∃ fault, Escapes e fault) ∨ Unsent f e

theorem Conveys.not_fails (h : Conveys f e r) : ¬ r.Fails := by
  intro hfails
  have hcontent := congrArg Response.content hfails
  cases h <;> cases hcontent

theorem Reports.of_conveys (h : Conveys f e r) (he : ∀ fault, ¬ Escapes e fault)
    (hu : ¬ Unsent f e) : Reports f e r :=
  ⟨.inl h, iff_of_false h.not_fails (fun hor => hor.elim (fun ⟨fault, hf⟩ => he fault hf) hu)⟩

theorem reports_ok (hdepth : ∀ a, (f a).depth ≤ depthLimit) (a : α) :
    Reports f (.ok a) (ofExcept f (.ok a)) := by
  have hescapes (fault : Fault) : ¬ Escapes (.ok a : Except Fault α) fault := fun h => by cases h.1
  rw [ofExcept, ok]
  cases hl : (f a).legible with
  | true =>
      rw [if_pos ⟨rfl, hdepth a⟩]
      refine .of_conveys (.ok a) hescapes ?_
      rw [Unsent, hl]
      exact Bool.true_eq_false.mp
  | false =>
      rw [if_neg (fun h => Bool.false_ne_true h.1)]
      exact ⟨.inr rfl, iff_of_true rfl (.inr hl)⟩

theorem conveys_hint {refusal : Refusal}
    (hround : ∀ x, refusal.retryAfter = some x → ∃ n, x.round? = some n) :
    ∃ hint, ofRefusal refusal = { detail refusal.status refusal.body with retryAfter := hint } ∧
      Conveys f (.error (.refused refusal))
        ⟨refusal.status, .json (.obj [("detail", refusal.body)]), hint⟩ := by
  rw [ofRefusal]
  cases hx : refusal.retryAfter with
  | none =>
      refine ⟨none, ?_, .refused hx⟩
      rw [detail]
      cases refusal.body.legible with
      | true => rfl
      | false => rfl
  | some x =>
      obtain ⟨n, hn⟩ := hround x hx
      exact ⟨some (max 1 n), by simp only [hn], .hinted hx hn⟩

theorem reports_refusal {refusal : Refusal}
    (hround : ∀ x, refusal.retryAfter = some x → ∃ n, x.round? = some n) :
    Reports f (.error (.refused refusal)) (ofExcept f (.error (.refused refusal))) := by
  obtain ⟨hint, hanswer, hconveys⟩ := conveys_hint (f := f) hround
  have hescapes (fault : Fault) : ¬ Escapes (.error (.refused refusal) : Except Fault α) fault :=
    fun h => h.2 refusal (Except.error.inj h.1).symm
  change Reports f _ (ofRefusal refusal)
  rw [hanswer, detail]
  cases hl : refusal.body.legible with
  | true =>
      refine .of_conveys hconveys hescapes ?_
      rw [Unsent, hl]
      exact Bool.true_eq_false.mp
  | false => exact ⟨.inr rfl, iff_of_true rfl (.inr hl)⟩

theorem reports_escape {fault : Fault} (h : ∀ refusal, fault ≠ .refused refusal) :
    Reports f (.error fault) (ofExcept f (.error fault)) := by
  have hbroken : ofExcept f (.error fault) = broken := by
    cases fault with
    | refused refusal => exact absurd rfl (h refusal)
    | _ => rfl
  rw [hbroken]
  exact ⟨.inr rfl, iff_of_true rfl (.inl ⟨fault, rfl, h⟩)⟩

theorem reports (hdepth : ∀ a, (f a).depth ≤ depthLimit)
    (hround : ∀ refusal x, e = .error (.refused refusal) → refusal.retryAfter = some x →
      ∃ n, x.round? = some n) : Reports f e (ofExcept f e) := by
  cases e with
  | ok a => exact reports_ok hdepth a
  | error fault =>
      by_cases h : ∃ refusal, fault = .refused refusal
      · obtain ⟨refusal, rfl⟩ := h
        exact reports_refusal fun x hx => hround refusal x rfl hx
      · exact reports_escape fun refusal hr => h ⟨refusal, hr⟩

end Response

variable {s : Service} {m : Moment} {q : Request} {tick : Float}

theorem Request.Submits.read {α : Type} {e : Endpoint} {read : Reader α} {a : α}
    (h : q.Submits e read a) : ∃ j, read j = .passed a := by
  obtain ⟨c, -, hc⟩ := Option.map_eq_some_iff.1 h.2
  cases c with
  | passed j => exact ⟨j, Checked.within_eq_passed_iff.1 hc⟩
  | failed issues => cases hc

theorem depth_callJson (c : AgentCall) (output : String) : (callJson c output).depth = 2 := rfl

theorem respond_createAgent {a : AgentRequest}
    (h : q.Submits .createAgent (AgentRequest.read .attributes .attributes) a) :
    (s.respond q tick).val.1 =
      Response.ofExcept Identity.toJson (s.gateway.createAgent s.moment a).val.1 := by
  rw [respond, h.1]
  simp only [Service.answer, withBody, h.2]
  rfl

theorem exists_hint {limits : CircuitLimits} {g : Gateway} {c : AgentCall} {refusal : Refusal}
    {x : Number} (hb : g.exchange.breaker.Standard limits
      fun t => Number.isFinite t = true ∧ t ≤ m.now)
    (h : (g.call m c tick).val.1 = .error (.refused refusal)) (hx : refusal.retryAfter = some x) :
    ∃ n, x.round? = some n := by
  cases hscopes : g.directory.callerScopes c.agent with
  | error found =>
      rw [Gateway.call_of_error hscopes] at h
      cases h
      obtain ⟨kind, message, -, rfl⟩ := Directory.refusal_of_callerScopes hscopes
      cases hx
  | ok scopes =>
      rw [Gateway.call_of_ok hscopes] at h
      rcases Exchange.refusal_of_dispatch h with ⟨kind, message, -, rfl⟩ | ⟨-, wait, hwait, rfl⟩
      · cases hx
      · cases hx
        exact Number.exists_round? (hb.isFinite_retryAfter hwait)

/-- What escapes a hire is the end of a time to live that is no date, and what escapes a call is a
wait too long to be told or an answer that is no text. Of all else the response tells. -/
theorem closed_but_for_overflow (hs : s.Opens) {vs : List Visit}
    (hclock : ∀ w ∈ vs, Number.isFinite w.moment.now = true ∧ w.moment.now ≤ m.now)
    (q : Request) (tick : Float) :
    let here := (s.after vs).atMoment m
    let answer := (here.respond q tick).val.1
    (∀ a, q.Submits .createAgent (AgentRequest.read .attributes .attributes) a →
      let made := (here.gateway.createAgent m a).val.1
      (∀ e, Escapes made e ↔ (∃ mandate, here.gateway.directory.Granted a mandate) ∧
        Directory.expiryFor m.wall a.budget = .error e) ∧
      ((∃ e, Directory.expiryFor m.wall a.budget = .error e) ↔
        Directory.Endless m.wall a.budget) ∧
      (∀ e, Escapes made e → e.Overflows) ∧
      Response.Reports Identity.toJson made answer) ∧
    (∀ c e, Escapes (here.exchange.dispatch m c).val.1 e ↔ here.exchange.Spills m c e) ∧
    ∀ c, q.Submits .call (AgentCall.read .attributes) c →
      let output := (here.gateway.call m c tick).val.1
      (∀ e, Escapes output e ↔
        ∃ scopes, here.gateway.directory.callerScopes c.agent = .ok scopes ∧
          here.exchange.Spills m ⟨c.backend, c.tool, .obj c.arguments, scopes, tick⟩ e) ∧
      Response.Reports (callJson c) output answer := by
  intro here answer
  refine ⟨?_, fun c e => Exchange.escapes_dispatch_iff, ?_⟩
  · intro a ha made
    have hn := (hs.numbered vs).not_mem Directory.agentId_fresh
    obtain ⟨j, hj⟩ := ha.read
    have hescapes (e : Fault) : Escapes made e ↔ _ := Directory.escapes_createFrom_iff hn
    refine ⟨hescapes, Directory.expiryFor_fails_iff (AgentRequest.valid_of_read hj), ?_, ?_⟩
    · intro e he
      exact Directory.overflows_of_expiryFor ((hescapes e).1 he).2
    · rw [show answer = _ from respond_createAgent ha]
      refine Response.reports (fun i => i.depth_toJson.trans (by decide)) ?_
      intro refusal x hrefused hx
      rcases Directory.error_of_createFrom hn hrefused with ⟨kind, message, heq⟩ | ⟨-, he⟩
      · cases heq
        cases hx
      · cases Directory.overflows_of_expiryFor he
  · intro c hc output
    refine ⟨fun e => Gateway.escapes_call_iff, ?_⟩
    obtain ⟨limits, hbreaker⟩ := hs.breaker
    have hstandard : here.breaker.Standard limits
        fun t => Number.isFinite t = true ∧ t ≤ m.now := by
      refine after_keeps (fun w hw => Breaker.Standard.keeps (hclock w hw)) ?_
      rw [hbreaker]
      exact Breaker.standard_start limits _
    rw [show answer = _ from respond_call hc]
    exact Response.reports (fun output => (depth_callJson c output).trans_le (by decide))
      fun refusal x => exists_hint hstandard

def hire (hours : Float) : Request :=
  ⟨.post, ⟨["v1", "agents"], []⟩, .json (.obj [("name", .str "guest"), ("tenant_id", .str "tenant"),
    ("budget", .obj [("ttl_hours", .real hours)])])⟩

def guest (hours : Float) : AgentRequest :=
  ⟨"guest", "tenant", none, [], ⟨none, none, some hours⟩⟩

theorem submits_hire :
    (hire 1.0).Submits .createAgent (AgentRequest.read .attributes .attributes) (guest 1.0) :=
  ⟨by decide +kernel, by rfl⟩

theorem closed_but_for_overflow_hasty : ∃ s, start hasty true = .ok s ∧ s.Opens ∧
    (∀ w ∈ [failing], Number.isFinite w.moment.now = true ∧ w.moment.now ≤ (1001.0 : Float)) ∧
    let here := (s.after [failing]).atMoment ⟨1001.0, .epoch⟩
    Response.Reports Identity.toJson (here.gateway.createAgent ⟨1001.0, .epoch⟩ (guest 1.0)).val.1
      (here.respond (hire 1.0) 0.0).val.1 := by
  obtain ⟨s, hs, -⟩ := exists_start hasty true (fun _ => True) (by decide +kernel)
  have hclock : ∀ w ∈ [failing],
      Number.isFinite w.moment.now = true ∧ w.moment.now ≤ (1001.0 : Float) := by
    decide +kernel
  obtain ⟨hhires, -, -⟩ := closed_but_for_overflow (m := ⟨1001.0, .epoch⟩) (opens_start hs) hclock
    (hire 1.0) 0.0
  exact ⟨s, hs, opens_start hs, hclock, (hhires (guest 1.0) submits_hire).2.2.2⟩

def unforgiving : List (String × String) :=
  [("TOOL_GATEWAY_FAILURE_THRESHOLD", "1"),
    ("TOOL_GATEWAY_RESET_TIMEOUT_MS", "1" ++ String.ofList (List.replicate 309 '0'))]

theorem overflow_fails_call_and_hire : (∀ kind : RefusalKind, kind.status ≠ 500) ∧
    ∃ s, start unforgiving true = .ok s ∧ s.answerAt [failing] 1001.0 = some (500, none) ∧
      (s.respond (hire 1e300) 0.0).val.1.status = 500 := by
  refine ⟨fun kind => by cases kind <;> decide, ?_⟩
  exact exists_start unforgiving true _ (by decide +kernel)

end Service

end Switchboard
