import Mathlib.Logic.Relation
import Switchboard.Catalogue.Form
import Switchboard.Delegation
import Switchboard.Proofs.Breaker.Outcome
import Switchboard.Proofs.Dispatch.Effect

namespace Switchboard

namespace Tool

def Unfit (t : Tool) (payload : Json) : Prop := ∃ issues, t.form.read payload = .failed issues

def Ends (t : Tool) (payload : Json) (o : Outcome) : Prop :=
  ∃ args, t.form.read payload = .passed args ∧ (t.handler args).outcome = o

variable {t : Tool} {payload : Json} {o : Outcome} {kind message : String}

theorem outcome_react_of_ends (h : t.Ends payload o) : (t.react payload).outcome = o := by
  obtain ⟨args, hr, ho⟩ := h
  rw [react, hr]
  exact ho

theorem outcome_react_of_unfit (h : t.Unfit payload) :
    ∃ r, (t.react payload).outcome = .rejected r := by
  obtain ⟨issues, hr⟩ := h
  rw [react, hr]
  exact ⟨_, rfl⟩

theorem unfit_or_ends (t : Tool) (payload : Json) :
    t.Unfit payload ∨ t.Ends payload (t.react payload).outcome := by
  unfold react
  cases hr : t.form.read payload with
  | failed issues => exact .inl ⟨issues, hr⟩
  | passed args => exact .inr ⟨args, hr, rfl⟩

theorem outcome_react_eq_raised_iff :
    (t.react payload).outcome = .raised kind message ↔ t.Ends payload (.raised kind message) := by
  refine ⟨fun h => ?_, outcome_react_of_ends⟩
  rcases t.unfit_or_ends payload with hu | he
  · obtain ⟨r, hr⟩ := outcome_react_of_unfit hu
    rw [hr] at h
    cases h
  · exact h ▸ he

theorem outcome_react_rejected_iff :
    (∃ r, (t.react payload).outcome = .rejected r) ↔
      t.Unfit payload ∨ ∃ r, t.Ends payload (.rejected r) := by
  constructor
  · rintro ⟨r, hr⟩
    exact (t.unfit_or_ends payload).imp_right fun he => ⟨r, hr ▸ he⟩
  · rintro (hu | ⟨r, he⟩)
    · exact outcome_react_of_unfit hu
    · exact ⟨r, outcome_react_of_ends he⟩

end Tool

namespace Exchange

structure Reaches (x : Exchange) (m : Moment) (c : Call) (tool : Tool) : Prop where
  entitled : x.Entitled c tool
  admitted : (x.admitted m c).allowed = true

def RefusedAs (kind : RefusalKind) (answer : Except Fault String) : Prop :=
  ∃ refusal, answer = .error (.refused refusal) ∧ refusal.kind = kind

structure Convicts (x : Exchange) (m : Moment) (c : Call) (kind message : String)
    (y : Exchange) : Prop where
  breaker : y.breaker = ((x.checked m c).breaker.recordFailure c.backend m.now).val
  failures : y.breaker.failures c.backend = x.breaker.failures c.backend + 1
  sightings : y.sightings =
    x.sightings.markUnhealthy c.backend (Outcome.blame kind message) m.now

structure Spares (x y : Exchange) : Prop where
  breaker : ∀ id, x.breaker.Rests id y.breaker
  sightings : y.sightings = x.sightings

def Misblames (x y : Exchange) : Prop :=
  ∃ m c tool report, x.Reaches m c tool ∧ tool.Ends c.payload (.rejected report) ∧
    y = (x.dispatch m c).val.2

variable {x y z : Exchange} {m : Moment} {c : Call} {tool : Tool} {kind message : String}
  {report : Report} {state : CircuitState} {o : Outcome}

theorem dispatch_of_reaches (h : x.Reaches m c tool) :
    (x.dispatch m c).val =
      ({ x.checked m c with
          registry := x.registry.setHealth c.backend (tool.react c.payload).health }.settle m c
        (x.admitted m c).state (tool.react c.payload).outcome).val := by
  rw [← watched_fst]
  exact (watched_of_admitted h.entitled h.admitted).1

theorem settled_of_reaches (h : x.Reaches m c tool) :
    x.Settled m c (x.dispatch m c).val.2 (tool.react c.payload).outcome := by
  rw [dispatch_of_reaches h]
  exact settled_settle x m c _ _

theorem refusedAs_invalidArguments_settle_iff :
    RefusedAs .invalidArguments (x.settle m c state o).val.1 ↔ ∃ r, o = .rejected r := by
  constructor
  · rintro ⟨refusal, hr, hk⟩
    cases o with
    | returned output => cases hr
    | returnedOther kind => cases hr
    | rejected r => exact ⟨r, rfl⟩
    | raised kind message =>
        cases hr
        cases hk
  · rintro ⟨r, rfl⟩
    exact ⟨_, rfl, rfl⟩

theorem refusedAs_backendFailure_settle_iff :
    RefusedAs .backendFailure (x.settle m c state o).val.1 ↔
      ∃ kind message, o = .raised kind message := by
  constructor
  · rintro ⟨refusal, hr, hk⟩
    cases o with
    | returned output => cases hr
    | returnedOther kind => cases hr
    | rejected r =>
        cases hr
        cases hk
    | raised kind message => exact ⟨kind, message, rfl⟩
  · rintro ⟨kind, message, rfl⟩
    exact ⟨_, rfl, rfl⟩

theorem refusedAs_invalidArguments_iff (h : x.Reaches m c tool) :
    RefusedAs .invalidArguments (x.dispatch m c).val.1 ↔
      tool.Unfit c.payload ∨ ∃ r, tool.Ends c.payload (.rejected r) := by
  rw [dispatch_of_reaches h, refusedAs_invalidArguments_settle_iff,
    Tool.outcome_react_rejected_iff]

theorem refusedAs_backendFailure_iff (h : x.Reaches m c tool) :
    RefusedAs .backendFailure (x.dispatch m c).val.1 ↔
      ∃ kind message, tool.Ends c.payload (.raised kind message) := by
  simp only [dispatch_of_reaches h, refusedAs_backendFailure_settle_iff,
    Tool.outcome_react_eq_raised_iff]

theorem rests_checked (x : Exchange) (m : Moment) (c : Call) (id : String) :
    x.breaker.Rests id (x.checked m c).breaker :=
  Breaker.rests_act (a := .ask m.now) rfl x.breaker c.backend id

theorem convicts_of_raised (h : x.Reaches m c tool)
    (he : tool.Ends c.payload (.raised kind message)) :
    x.Convicts m c kind message (x.dispatch m c).val.2 := by
  have hs := settled_of_reaches h
  rw [Tool.outcome_react_of_ends he] at hs
  obtain ⟨hb, hsight, -⟩ := hs
  refine ⟨hb, ?_, hsight⟩
  rw [hb, ← (rests_checked x m c c.backend).failures]
  exact Breaker.failures_recordFailure _ _ _

theorem answer_of_raised (h : x.Reaches m c tool)
    (he : tool.Ends c.payload (.raised kind message)) :
    (x.dispatch m c).val.1 = .error (.refused (.of .backendFailure
      ("Tool call failed (" ++ c.backend ++ "/" ++ c.tool ++ "): " ++ message))) := by
  rw [dispatch_of_reaches h, Tool.outcome_react_of_ends he]
  rfl

theorem answer_of_rejected (h : x.Reaches m c tool)
    (he : tool.Ends c.payload (.rejected report)) :
    (x.dispatch m c).val.1 = .error (.refused (.of .invalidArguments report.text)) := by
  rw [dispatch_of_reaches h, Tool.outcome_react_of_ends he]
  rfl

theorem spares_of_rejected (h : x.Reaches m c tool)
    (he : tool.Ends c.payload (.rejected report)) : x.Spares (x.dispatch m c).val.2 := by
  rw [dispatch_of_reaches h, Tool.outcome_react_of_ends he]
  exact ⟨rests_checked x m c, rfl⟩

theorem Spares.refl (x : Exchange) : x.Spares x := ⟨fun id => .refl id x.breaker, rfl⟩

theorem Spares.trans (h : x.Spares y) (h' : y.Spares z) : x.Spares z :=
  ⟨fun id => (h.breaker id).trans (h'.breaker id), h'.sightings.trans h.sightings⟩

theorem spares_of_misblamed (h : Relation.ReflTransGen Misblames x y) : x.Spares y := by
  induction h with
  | refl => exact .refl x
  | tail _ hlast ih =>
      obtain ⟨m, c, tool, report, hr, he, rfl⟩ := hlast
      exact ih.trans (spares_of_rejected hr he)

theorem Spares.admits (h : x.Spares y) {id : String} (hc : x.breaker.Closed id) (now : Float) :
    (y.breaker.admission id now).val.1.allowed = true :=
  Breaker.allowed_of_closed ((h.breaker id).closed.2 hc) now

theorem blame_follows_exception_kind (h : x.Reaches m c tool) :
    let answer := (x.dispatch m c).val.1
    let y := (x.dispatch m c).val.2
    (RefusedAs .invalidArguments answer ↔
      tool.Unfit c.payload ∨ ∃ report, tool.Ends c.payload (.rejected report)) ∧
    (RefusedAs .backendFailure answer ↔
      ∃ kind message, tool.Ends c.payload (.raised kind message)) ∧
    (∀ kind message, tool.Ends c.payload (.raised kind message) →
      answer = .error (.refused (.of .backendFailure
        ("Tool call failed (" ++ c.backend ++ "/" ++ c.tool ++ "): " ++ message))) ∧
      x.Convicts m c kind message y) ∧
    (∀ report, tool.Ends c.payload (.rejected report) →
      answer = .error (.refused (.of .invalidArguments report.text)) ∧ x.Spares y ∧
      ∀ z, Relation.ReflTransGen Misblames y z → x.Spares z ∧
        ∀ id now, x.breaker.Closed id → (z.breaker.admission id now).val.1.allowed = true) := by
  intro answer y
  refine ⟨refusedAs_invalidArguments_iff h, refusedAs_backendFailure_iff h, ?_, ?_⟩
  · intro kind message he
    exact ⟨answer_of_raised h he, convicts_of_raised h he⟩
  · intro report he
    have hy := spares_of_rejected h he
    refine ⟨answer_of_rejected h he, hy, fun z hz => ?_⟩
    have hxz := hy.trans (spares_of_misblamed hz)
    exact ⟨hxz, fun id now hc => hxz.admits hc now⟩

def overdrawn : Report := ⟨Budget.model, [⟨[.field "max_tool_calls"], .below 0, .whole (-1)⟩]⟩

def quota : Tool where
  name := "quota"
  description := "Tell what is left of a quota."
  form := .wordCount
  handler _ := (Outcome.rejected overdrawn).quiet
  tags := []

def vending : Exchange :=
  { start ⟨1, 1000, by decide⟩ (.start .traces none) with
    registry := (Registry.empty.register ⟨"vendor", "Vendor", [quota], .absent⟩).val.2 }

def quotaCall : Call := ⟨"vendor", "quota", .obj [("text", .str "mine")], none, 0.0⟩

theorem vending_reaches : vending.Reaches ⟨1.0, .epoch⟩ quotaCall quota :=
  ⟨⟨⟨_, rfl, rfl⟩, rfl⟩, rfl⟩

theorem quota_ends : quota.Ends quotaCall.payload (.rejected overdrawn) := ⟨_, rfl, rfl⟩

theorem blame_follows_exception_of_quota :
    let y := (vending.dispatch ⟨1.0, .epoch⟩ quotaCall).val.2
    vending.Reaches ⟨1.0, .epoch⟩ quotaCall quota ∧ vending.Spares y ∧
      (y.breaker.admission "vendor" 2.0).val.1.allowed = true := by
  intro y
  obtain ⟨-, -, -, hrejected⟩ := blame_follows_exception_kind vending_reaches
  obtain ⟨-, hspares, hon⟩ := hrejected overdrawn quota_ends
  exact ⟨vending_reaches, hspares, (hon y .refl).2 "vendor" 2.0 rfl⟩

theorem upstream_fault_blamed_on_caller :
    let c := quotaCall
    let y := (vending.dispatch ⟨1.0, .epoch⟩ c).val.2
    (vending.Reaches ⟨1.0, .epoch⟩ c quota ∧ ¬ quota.Unfit c.payload ∧
      quota.Ends c.payload (.rejected overdrawn)) ∧
    (vending.dispatch ⟨1.0, .epoch⟩ c).val.1 =
      .error (.refused (.of .invalidArguments overdrawn.text)) ∧
    y.breaker.failures "vendor" = 0 ∧ y.sightings.get? "vendor" = none := by
  refine ⟨⟨vending_reaches, ?_, quota_ends⟩, rfl, rfl, rfl⟩
  rintro ⟨issues, h⟩
  cases h

end Exchange

end Switchboard
