import Switchboard.Proofs.Breaker.Admission

namespace Switchboard.Breaker

structure Account where
  circuit : Circuit
  seen : Bool

namespace Account

def opening (limits : CircuitLimits) : Account := ⟨.fresh limits, false⟩

def act (standard : CircuitLimits) (a : Account) : Act → Account
  | .configure limits => { a with circuit := { a.circuit with limits := limits } }
  | .ask now => { a with circuit := a.circuit.check now }
  | .status now => { a with circuit := a.circuit.check now }
  | .succeed now => if a.seen then { a with circuit := a.circuit.succeed now } else a
  | .fail now => ⟨a.circuit.fail now, true⟩
  | .reset => opening standard

def run (standard : CircuitLimits) (h : List Act) : Account :=
  h.foldl (act standard) (opening standard)

def admission (a : Account) (now : Float) : Admission :=
  ⟨(a.circuit.check now).state ≠ .opened, (a.circuit.check now).state⟩

def status (a : Account) (now : Float) : CircuitStatus := .ofCircuit (a.circuit.check now)

theorem run_concat (standard : CircuitLimits) (h : List Act) (a : Act) :
    run standard (h ++ [a]) = (run standard h).act standard a := by
  simp [run]

end Account

def account (b : Breaker) (id : String) : Account :=
  match b.circuits.get? id with
  | none => .opening ((b.pending.get? id).getD b.standard)
  | some c => ⟨c, true⟩

variable {b : Breaker} {id k : String} {c : Circuit}

theorem account_of_untracked (h : b.circuits.get? id = none) :
    b.account id = .opening ((b.pending.get? id).getD b.standard) := by
  rw [account, h]

theorem account_of_tracked (h : b.circuits.get? id = some c) : b.account id = ⟨c, true⟩ := by
  rw [account, h]

theorem account_put (b : Breaker) (id : String) (c : Circuit) :
    { b with circuits := b.circuits.put id c }.account id = ⟨c, true⟩ :=
  account_of_tracked (Roster.get?_put_self b.circuits id c)

theorem account_reset (b : Breaker) (id : String) : (b.reset id).account id = .opening b.standard := by
  rw [account_of_untracked (by simp [reset, Roster.get?_erase])]
  simp [reset, Roster.get?_erase]

theorem fresh_check (limits : CircuitLimits) (now : Float) :
    (Circuit.fresh limits).check now = .fresh limits :=
  Circuit.check_of_not_opened (by simp [Circuit.fresh]) now

theorem account_act_of_ne (hk : k ≠ id) (b : Breaker) (a : Act) :
    (b.act id a).account k = b.account k := by
  obtain ⟨hc, hp⟩ := act_of_ne hk b a
  rw [account, account, hc, hp, standard_act]

theorem account_act (b : Breaker) (id : String) (a : Act) :
    (b.act id a).account id = (b.account id).act b.standard a := by
  cases hc : b.circuits.get? id with
  | none =>
      rw [account_of_untracked hc]
      cases a with
      | configure limits =>
          simp only [act, configure, hc]
          rw [account_of_untracked (b := { b with pending := b.pending.put id limits }) hc]
          simp only [Roster.get?_put_self]
          rfl
      | ask now =>
          rw [act, admission_of_untracked hc, account_of_untracked hc]
          simp only [Account.act, Account.opening, fresh_check]
      | status now =>
          rw [act, status_of_untracked hc, account_of_untracked hc]
          simp only [Account.act, Account.opening, fresh_check]
      | succeed now =>
          simp only [act, recordSuccess, hc, Logged.val_pure]
          exact account_of_untracked hc
      | fail now =>
          simp only [act, recordFailure, hc, turn]
          exact account_put { b with pending := b.pending.erase id } id _
      | reset => exact account_reset b id
  | some c =>
      rw [account_of_tracked hc]
      cases a with
      | configure limits =>
          simp only [act, configure, hc]
          exact account_put _ _ _
      | ask now =>
          rw [act, admission_of_tracked hc]
          exact account_put _ _ _
      | status now =>
          rw [act, status_of_tracked hc]
          exact account_put _ _ _
      | succeed now =>
          simp only [act, recordSuccess, hc, turn]
          exact account_put _ _ _
      | fail now =>
          simp only [act, recordFailure, hc, turn]
          exact account_put _ _ _
      | reset => exact account_reset b id

theorem account_run (standard : CircuitLimits) (es : List Event) (id : String) :
    (run standard es).account id = .run standard (acts id es) := by
  induction es using List.reverseRecOn with
  | nil => rfl
  | append_singleton es e ih =>
      rw [run_concat, acts_concat]
      split
      · next he => rw [he, account_act, standard_run, ih, Account.run_concat]
      · next he => rw [account_act_of_ne (Ne.symm he), ih]

theorem admission_eq (b : Breaker) (id : String) (now : Float) :
    (b.admission id now).val.1 = (b.account id).admission now := by
  cases hc : b.circuits.get? id with
  | none =>
      rw [admission_of_untracked hc, account_of_untracked hc, Account.admission, Account.opening,
        fresh_check]
      rfl
  | some c =>
      rw [admission_of_tracked hc, account_of_tracked hc]
      rfl

theorem status_eq (b : Breaker) (id : String) (now : Float) :
    (b.status id now).val.1 = (b.account id).status now := by
  cases hc : b.circuits.get? id with
  | none =>
      rw [status_of_untracked hc, account_of_untracked hc, Account.status, Account.opening,
        fresh_check]
      rfl
  | some c =>
      rw [status_of_tracked hc, account_of_tracked hc]
      rfl

theorem retryAfter_eq (b : Breaker) (id : String) (now : Float) :
    b.retryAfter id now = (b.account id).circuit.retryAfter now := by
  unfold retryAfter account
  cases b.circuits.get? id with
  | none => rfl
  | some c => rfl

theorem mem_tracked_iff (b : Breaker) (id : String) : id ∈ b.tracked ↔ (b.account id).seen = true := by
  unfold account
  cases hc : b.circuits.get? id with
  | none => simpa [Account.opening, tracked] using (Roster.get?_eq_none_iff _ _).1 hc
  | some c => simpa [tracked] using Roster.mem_ids_of_get? hc

def FailedSinceReset (h : List Act) : Prop := ∃ a ∈ h.rtakeWhile (fun a => !a.resets), a.fails = true

theorem failedSinceReset_concat (h : List Act) (a : Act) :
    FailedSinceReset (h ++ [a]) ↔ a.resets = false ∧ (a.fails = true ∨ FailedSinceReset h) := by
  unfold FailedSinceReset
  cases hr : a.resets with
  | true =>
      rw [List.rtakeWhile_concat_neg _ _ _ (by simp [hr])]
      simp
  | false =>
      rw [List.rtakeWhile_concat_pos _ _ _ (by simp [hr])]
      simp [or_comm, or_and_right, exists_or]

theorem seen_run_iff (standard : CircuitLimits) (h : List Act) :
    (Account.run standard h).seen = true ↔ FailedSinceReset h := by
  induction h using List.reverseRecOn with
  | nil => simp [Account.run, Account.opening, FailedSinceReset]
  | append_singleton h a ih =>
      rw [Account.run_concat, failedSinceReset_concat, ← ih]
      cases a with
      | succeed now =>
          simp only [Account.act]
          split <;> simp [Act.resets, Act.fails, *]
      | _ => simp [Account.act, Account.opening, Act.resets, Act.fails]

theorem account_limits (standard : CircuitLimits) (es : List Event) (id : String) :
    ((run standard es).account id).circuit.limits = inForce standard (acts id es) := by
  have hr := recorded_run standard es id
  cases hc : (run standard es).circuits.get? id with
  | none =>
      rw [hc] at hr
      rw [account_of_untracked hc, ← hr.limits, standard_run]
      rfl
  | some c =>
      rw [hc] at hr
      rw [account_of_tracked hc]
      exact hr.2.limits

theorem account_failures (standard : CircuitLimits) (es : List Event) (id : String) :
    ((run standard es).account id).circuit.failures = failuresSince (acts id es) := by
  have hr := recorded_run standard es id
  cases hc : (run standard es).circuits.get? id with
  | none =>
      rw [hc] at hr
      rw [account_of_untracked hc, hr.failures]
      rfl
  | some c =>
      rw [hc] at hr
      rw [account_of_tracked hc]
      exact hr.2.failures

theorem refines_account (standard : CircuitLimits) (es : List Event) (id : String) :
    let b := run standard es
    let h := acts id es
    let record := Account.run standard h
    b.account id = record ∧
    (∀ now, (b.admission id now).val.1 = record.admission now ∧
      (b.status id now).val.1 = record.status now ∧
      b.retryAfter id now = record.circuit.retryAfter now ∧
      (b.status id now).val.1.failures = failuresSince h) ∧
    record.circuit.limits = inForce standard h ∧
    (id ∈ b.tracked ↔ FailedSinceReset h) ∧
    (b.circuits.get? id = none ∨ b.pending.get? id = none) := by
  have ha := account_run standard es id
  refine ⟨ha, fun now => ⟨?_, ?_, ?_, ?_⟩, ?_, ?_, ?_⟩
  · rw [admission_eq, ha]
  · rw [status_eq, ha]
  · rw [retryAfter_eq, ha]
  · rw [status_eq, ← account_failures standard es id]
    exact Circuit.check_failures _ now
  · rw [← ha]
    exact account_limits standard es id
  · rw [mem_tracked_iff, ha, seen_run_iff]
  · have hr := recorded_run standard es id
    cases hc : (run standard es).circuits.get? id with
    | none => exact .inl rfl
    | some c =>
        rw [hc] at hr
        exact .inr hr.1

end Switchboard.Breaker
