import Switchboard.Dispatch

namespace Switchboard

namespace Tool

def react (t : Tool) (payload : Json) : Reaction :=
  match t.form.read payload with
  | .failed issues => Outcome.quiet (.rejected ⟨t.form.model, issues⟩)
  | .passed args => t.handler args

def uses (t : Tool) (payload : Json) : List (Tool × Args) :=
  match t.form.read payload with
  | .failed _ => []
  | .passed args => [(t, args)]

theorem length_uses_le (t : Tool) (payload : Json) : (t.uses payload).length ≤ 1 := by
  unfold uses
  cases t.form.read payload with
  | failed _ => exact Nat.zero_le _
  | passed _ => exact Nat.le_refl _

theorem eq_of_mem_uses {s t : Tool} {payload : Json} {args : Args}
    (h : (s, args) ∈ t.uses payload) : s = t ∧ t.form.read payload = .passed args := by
  unfold uses at h
  cases hr : t.form.read payload with
  | failed _ => simp [hr] at h
  | passed found =>
      simp only [hr, List.mem_singleton, Prod.mk.injEq] at h
      exact ⟨h.1, by rw [h.2]⟩

end Tool

namespace Breaker

theorem eq_of_retryAfter_error {b : Breaker} {id : String} {now : Float} {e : Fault}
    (h : b.retryAfter id now = .error e) : e = .overflow .operand := by
  unfold retryAfter at h
  cases hc : b.circuits.get? id with
  | none => simp [hc] at h
  | some c =>
      simp only [hc, Circuit.retryAfter] at h
      split at h
      · cases hm : Number.ofInt? c.limits.resetMs with
        | none =>
            rw [hm] at h
            exact (Except.error.inj h).symm
        | some ms => simp [hm] at h
      · simp at h

end Breaker

namespace Exchange

def watch (tool : Tool) (args : Args) : StateM (List (Tool × Args)) Reaction :=
  fun runs => (tool.handler args, runs ++ [(tool, args)])

def watched (x : Exchange) (m : Moment) (c : Call) :
    Logged (Except Fault String × Exchange) × List (Tool × Args) :=
  (x.dispatchWith watch m c).run []

structure Entitled (x : Exchange) (c : Call) (tool : Tool) : Prop where
  offered : ∃ b, x.registry.backends.get? c.backend = some b ∧ b.tool? c.tool = some tool
  permitted : Scope.permits c.scopes c.backend c.tool = true

def admitted (x : Exchange) (m : Moment) (c : Call) : Admission :=
  (x.breaker.admission c.backend m.now).val.1

def checked (x : Exchange) (m : Moment) (c : Call) : Exchange :=
  { x with breaker := (x.breaker.admission c.backend m.now).val.2 }

variable {x : Exchange} {m : Moment} {c : Call} {tool : Tool}

theorem resolve_eq_ok_iff : x.resolve c = .ok tool ↔ x.Entitled c tool := by
  unfold resolve
  constructor
  · intro h
    cases hb : x.registry.backends.get? c.backend with
    | none => simp [hb] at h
    | some b =>
        cases ht : b.tool? c.tool with
        | none => simp [hb, ht] at h
        | some found =>
            cases hp : Scope.permits c.scopes c.backend c.tool with
            | false => simp [hb, ht, hp] at h
            | true =>
                simp only [hb, ht, hp, if_true, Except.ok.injEq] at h
                exact ⟨⟨b, hb, h ▸ ht⟩, hp⟩
  · rintro ⟨⟨b, hb, ht⟩, hp⟩
    simp only [hb, ht, hp, if_true]

theorem Entitled.unique {s : Tool} (h : x.Entitled c tool) (hs : x.Entitled c s) : s = tool := by
  have he := (resolve_eq_ok_iff.2 hs).symm.trans (resolve_eq_ok_iff.2 h)
  exact Except.ok.inj he

theorem dispatch_of_error {refusal : Refusal} (h : x.resolve c = .error refusal) :
    (x.dispatch m c).val = (.error (.refused refusal), x) := by
  unfold dispatch dispatchWith
  rw [h]
  rfl

theorem watched_fst (x : Exchange) (m : Moment) (c : Call) :
    (x.watched m c).1 = x.dispatch m c := by
  unfold watched dispatch dispatchWith
  cases x.resolve c with
  | error refusal => rfl
  | ok tool =>
      dsimp only
      split
      · unfold invoke
        cases tool.form.read c.payload with
        | failed issues => rfl
        | passed args => rfl
      · rfl

theorem watched_of_not_entitled (h : ∀ tool, ¬ x.Entitled c tool) :
    (x.watched m c).1.val.2 = x ∧ (x.watched m c).2 = [] := by
  unfold watched dispatchWith
  cases hr : x.resolve c with
  | error refusal => exact ⟨rfl, rfl⟩
  | ok tool => exact absurd (resolve_eq_ok_iff.1 hr) (h tool)

theorem watched_of_refused (h : x.Entitled c tool) (ha : (x.admitted m c).allowed = false) :
    (x.watched m c).1.val = (x.checked m c).refuseOpen m c ∧ (x.watched m c).2 = [] := by
  unfold watched dispatchWith
  rw [resolve_eq_ok_iff.2 h]
  unfold admitted at ha
  dsimp only
  rw [if_neg (by simp [ha])]
  exact ⟨rfl, rfl⟩

theorem watched_of_admitted (h : x.Entitled c tool) (ha : (x.admitted m c).allowed = true) :
    (x.watched m c).1.val =
      ({ x.checked m c with
          registry := x.registry.setHealth c.backend (tool.react c.payload).health }.settle m c
        (x.admitted m c).state (tool.react c.payload).outcome).val ∧
      (x.watched m c).2 = tool.uses c.payload := by
  unfold watched dispatchWith
  rw [resolve_eq_ok_iff.2 h]
  unfold admitted at ha
  dsimp only
  rw [if_pos ha]
  unfold invoke Tool.react Tool.uses
  cases tool.form.read c.payload with
  | failed issues => exact ⟨rfl, rfl⟩
  | passed args => exact ⟨rfl, rfl⟩

variable {refusal : Refusal}

theorem refuseOpen_cases (x : Exchange) (m : Moment) (c : Call) :
    (x.refuseOpen m c).1 = .error (.overflow .operand) ∨
      ∃ refusal, (x.refuseOpen m c).1 = .error (.refused refusal) ∧
        refusal.kind = .circuitOpen := by
  unfold refuseOpen
  cases hr : x.breaker.retryAfter c.backend m.now with
  | error e => exact .inl (congrArg _ (Breaker.eq_of_retryAfter_error hr))
  | ok seconds => exact .inr ⟨_, rfl, rfl⟩

theorem kind_of_refuseOpen (h : (x.refuseOpen m c).1 = .error (.refused refusal)) :
    refusal.kind = .circuitOpen := by
  rcases x.refuseOpen_cases m c with he | ⟨found, he, hk⟩
  · rw [he] at h
    cases h
  · rw [he] at h
    cases h
    exact hk

theorem kind_of_settle {state : CircuitState} {o : Outcome}
    (h : (x.settle m c state o).val.1 = .error (.refused refusal)) :
    refusal.kind = .invalidArguments ∨ refusal.kind = .backendFailure := by
  cases o with
  | returned output => simp [settle, succeed] at h
  | returnedOther kind => simp [settle, blameAnswer] at h
  | rejected report =>
      have hr := Fault.refused.inj (Except.error.inj h)
      exact .inl (hr ▸ rfl)
  | raised kind message =>
      have hr := Fault.refused.inj (Except.error.inj h)
      exact .inr (hr ▸ rfl)

theorem kind_of_entitled (he : x.Entitled c tool)
    (h : (x.dispatch m c).val.1 = .error (.refused refusal)) :
    refusal.kind = .circuitOpen ∨ refusal.kind = .invalidArguments ∨
      refusal.kind = .backendFailure := by
  rw [← watched_fst] at h
  cases ha : (x.admitted m c).allowed with
  | false =>
      rw [(watched_of_refused he ha).1] at h
      exact .inl (kind_of_refuseOpen h)
  | true =>
      rw [(watched_of_admitted he ha).1] at h
      exact .inr (kind_of_settle h)

end Exchange

end Switchboard
