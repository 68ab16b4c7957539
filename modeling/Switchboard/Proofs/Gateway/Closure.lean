import Switchboard.Proofs.Directory.Expiry
import Switchboard.Proofs.Dispatch.Blame
import Switchboard.Proofs.Dispatch.Wait
import Switchboard.Proofs.Gateway.Run

namespace Switchboard

def Escapes {α : Type} (answer : Except Fault α) (e : Fault) : Prop :=
  answer = .error e ∧ ∀ refusal, e ≠ .refused refusal

namespace Directory

variable {ids : Nat → String} {d : Directory} {r : AgentRequest} {now : Readings} {e : Fault}

theorem refusal_of_mandateFor (h : (d.mandateFor r).val = .error e) :
    ∃ kind message, e = .refused (.of kind message) := by
  unfold mandateFor at h
  split at h
  · cases h
  · split at h
    · cases h
      exact ⟨_, _, rfl⟩
    · split at h
      · cases h
        exact ⟨_, _, rfl⟩
      · cases h

theorem createFrom_of_fails {m : Mandate} (hm : Granted d r m)
    (he : expiryFor now.since r.budget = .error e) : (d.createFrom ids r now).val = (.error e, d) := by
  simp only [createFrom, Logged.val_bind, mandateFor_of_granted hm, he, Logged.val_pure]

theorem error_of_createFrom (hn : ids (d.issued + 1) ∉ d.agents.ids)
    (h : (d.createFrom ids r now).val.1 = .error e) :
    (∃ kind message, e = .refused (.of kind message)) ∨
      (∃ m, Granted d r m) ∧ expiryFor now.since r.budget = .error e := by
  have hc := createFrom_creation ids d r now
  generalize (d.createFrom ids r now).val = after at hc h
  cases hc with
  | refused hm =>
      cases h
      exact .inl (refusal_of_mandateFor hm)
  | dateless hm he =>
      cases h
      exact .inr ⟨⟨_, hm⟩, he⟩
  | taken _ _ hmem => exact absurd hmem hn
  | stored _ _ _ => cases h

theorem escapes_createFrom_iff (hn : ids (d.issued + 1) ∉ d.agents.ids) :
    Escapes (d.createFrom ids r now).val.1 e ↔
      (∃ m, Granted d r m) ∧ expiryFor now.since r.budget = .error e := by
  constructor
  · rintro ⟨h, hescapes⟩
    rcases error_of_createFrom hn h with ⟨kind, message, rfl⟩ | hdateless
    · exact absurd rfl (hescapes _)
    · exact hdateless
  · rintro ⟨⟨m, hm⟩, he⟩
    rw [createFrom_of_fails hm he]
    refine ⟨rfl, ?_⟩
    rintro refusal rfl
    cases overflows_of_expiryFor he

end Directory

namespace Exchange

variable {x : Exchange} {m : Moment} {c : Call} {e : Fault}

inductive Spills (x : Exchange) (m : Moment) (c : Call) : Fault → Prop
  | untold {tool : Tool} : x.Entitled c tool → x.breaker.Boundless c.backend m.now →
      Spills x m c (.overflow .operand)
  | untyped {tool : Tool} {kind : String} : x.Reaches m c tool →
      tool.Ends c.payload (.returnedOther kind) → Spills x m c (.uncuttable kind)

theorem escapes_settle {state : CircuitState} {o : Outcome}
    (h : Escapes (x.settle m c state o).val.1 e) :
    ∃ kind, o = .returnedOther kind ∧ e = .uncuttable kind := by
  obtain ⟨h, hescapes⟩ := h
  cases o with
  | returned output => cases h
  | returnedOther kind =>
      cases h
      exact ⟨kind, rfl, rfl⟩
  | rejected report =>
      cases h
      exact absurd rfl (hescapes _)
  | raised kind message =>
      cases h
      exact absurd rfl (hescapes _)

theorem escapes_refuseOpen (ha : (x.admitted m c).allowed = false)
    (h : Escapes (x.refuseOpen m c).1 e) :
    e = .overflow .operand ∧ x.breaker.Boundless c.backend m.now := by
  obtain ⟨h, hescapes⟩ := h
  rw [refuseOpen] at h
  cases hr : x.breaker.retryAfter c.backend m.now with
  | error f =>
      rw [hr] at h
      cases h
      obtain rfl := Breaker.eq_of_retryAfter_error hr
      refine ⟨rfl, Breaker.retryAfter_eq_overflow_iff.1 ?_⟩
      rw [Breaker.asked_of_refused ha, hr]
  | ok wait =>
      rw [hr] at h
      cases h
      exact absurd rfl (hescapes _)

theorem spills_of_escapes (h : Escapes (x.dispatch m c).val.1 e) : x.Spills m c e := by
  cases hresolve : x.resolve c with
  | error refusal =>
      obtain ⟨h, hescapes⟩ := h
      rw [dispatch_of_error hresolve] at h
      cases h
      exact absurd rfl (hescapes _)
  | ok tool =>
      have hentitled := resolve_eq_ok_iff.1 hresolve
      cases ha : (x.admitted m c).allowed with
      | false =>
          rw [← watched_fst, (watched_of_refused hentitled ha).1, checked_of_refused ha] at h
          obtain ⟨rfl, hboundless⟩ := escapes_refuseOpen ha h
          exact .untold hentitled hboundless
      | true =>
          have hreaches : x.Reaches m c tool := ⟨hentitled, ha⟩
          rw [dispatch_of_reaches hreaches] at h
          obtain ⟨kind, ho, rfl⟩ := escapes_settle h
          rcases tool.unfit_or_ends c.payload with hunfit | hends
          · obtain ⟨report, hr⟩ := Tool.outcome_react_of_unfit hunfit
            cases hr.symm.trans ho
          · exact .untyped hreaches (ho ▸ hends)

theorem escapes_of_spills (h : x.Spills m c e) : Escapes (x.dispatch m c).val.1 e := by
  cases h with
  | untold hentitled hboundless =>
      have ha : (x.admitted m c).allowed = false := Breaker.refused_of_boundless hboundless
      rw [← watched_fst, (watched_of_refused hentitled ha).1, checked_of_refused ha, refuseOpen,
        Breaker.retryAfter_of_boundless hboundless]
      exact ⟨rfl, fun _ h => by cases h⟩
  | untyped hreaches hends =>
      rw [dispatch_of_reaches hreaches, Tool.outcome_react_of_ends hends]
      exact ⟨rfl, fun _ h => by cases h⟩

theorem escapes_dispatch_iff : Escapes (x.dispatch m c).val.1 e ↔ x.Spills m c e :=
  ⟨spills_of_escapes, escapes_of_spills⟩

end Exchange

namespace Gateway

variable {g : Gateway} {m : Moment} {c : AgentCall} {tick : Float} {e : Fault}

theorem escapes_call_iff : Escapes (g.call m c tick).val.1 e ↔
    ∃ scopes, g.directory.callerScopes c.agent = .ok scopes ∧
      g.exchange.Spills m ⟨c.backend, c.tool, .obj c.arguments, scopes, tick⟩ e := by
  cases hscopes : g.directory.callerScopes c.agent with
  | error refusal =>
      rw [call_of_error hscopes]
      refine iff_of_false ?_ ?_
      · rintro ⟨h, hescapes⟩
        cases h
        exact absurd rfl (hescapes _)
      · rintro ⟨scopes, h, -⟩
        cases h
  | ok scopes =>
      rw [call_of_ok hscopes]
      refine Exchange.escapes_dispatch_iff.trans ⟨fun h => ⟨scopes, rfl, h⟩, ?_⟩
      rintro ⟨found, h, hspills⟩
      cases h
      exact hspills

end Gateway

end Switchboard
