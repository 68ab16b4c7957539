import Switchboard.Proofs.Breaker.Account

namespace Switchboard.Breaker

def failures (b : Breaker) (id : String) : Nat := (b.account id).circuit.failures

def Closed (b : Breaker) (id : String) : Prop := (b.account id).circuit.state = .closed

structure Rests (id : String) (b b' : Breaker) : Prop where
  failures : b'.failures id = b.failures id
  closed : b'.Closed id ↔ b.Closed id

structure Faultless (id : String) (b : Breaker) : Prop where
  failures : b.failures id = 0
  closed : b.Closed id

def Act.idle : Act → Bool
  | .configure _ => true
  | .ask _ => true
  | .status _ => true
  | _ => false

variable {id k : String} {a : Act} {b b₁ b₂ b₃ : Breaker}

theorem Rests.refl (id : String) (b : Breaker) : b.Rests id b := ⟨rfl, Iff.rfl⟩

theorem Rests.trans (h : b₁.Rests id b₂) (h' : b₂.Rests id b₃) : b₁.Rests id b₃ :=
  ⟨h'.failures.trans h.failures, h'.closed.trans h.closed⟩

theorem Rests.faultless (h : b₁.Rests id b₂) (hf : b₁.Faultless id) : b₂.Faultless id :=
  ⟨h.failures.trans hf.failures, h.closed.2 hf.closed⟩

theorem rests_of_ne (hk : id ≠ k) (b : Breaker) (a : Act) : b.Rests id (b.act k a) := by
  have ha := account_act_of_ne hk b a
  constructor
  · rw [failures, ha]
    rfl
  · rw [Closed, ha]
    rfl

theorem Account.act_idle (ha : a.idle = true) (standard : CircuitLimits) (r : Account) :
    (r.act standard a).circuit.failures = r.circuit.failures ∧
      ((r.act standard a).circuit.state = .closed ↔ r.circuit.state = .closed) := by
  cases a with
  | configure limits => exact ⟨rfl, Iff.rfl⟩
  | ask now => exact ⟨r.circuit.check_failures now, r.circuit.check_state_eq_closed_iff now⟩
  | status now => exact ⟨r.circuit.check_failures now, r.circuit.check_state_eq_closed_iff now⟩
  | succeed now => cases ha
  | fail now => cases ha
  | reset => cases ha

theorem rests_act (ha : a.idle = true) (b : Breaker) (k id : String) : b.Rests id (b.act k a) := by
  by_cases hk : id = k
  · subst hk
    obtain ⟨hf, hc⟩ := Account.act_idle ha b.standard (b.account id)
    rw [← account_act] at hf hc
    exact ⟨hf, hc⟩
  · exact rests_of_ne hk b a

theorem faultless_of_account {r : Account} (h : b.account id = r)
    (hf : r.circuit.failures = 0) (hc : r.circuit.state = .closed) : b.Faultless id where
  failures := by rw [failures, h, hf]
  closed := by rw [Closed, h, hc]

theorem faultless_succeed (b : Breaker) (id : String) (now : Float) :
    (b.act id (.succeed now)).Faultless id := by
  cases hc : b.circuits.get? id with
  | none =>
      have hb : b.act id (.succeed now) = b := by simp only [act, recordSuccess, hc, Logged.val_pure]
      rw [hb]
      exact faultless_of_account (account_of_untracked hc) rfl rfl
  | some c =>
      have ha := account_act b id (.succeed now)
      rw [account_of_tracked hc] at ha
      exact faultless_of_account ha rfl rfl

theorem failures_recordFailure (b : Breaker) (id : String) (now : Float) :
    (b.recordFailure id now).val.failures id = b.failures id + 1 := by
  change (b.act id (.fail now)).failures id = _
  rw [failures, account_act]
  rfl

theorem allowed_of_closed (h : b.Closed id) (now : Float) :
    (b.admission id now).val.1.allowed = true := by
  have hs : ((b.account id).circuit.check now).state = .closed :=
    (Circuit.check_state_eq_closed_iff _ now).2 h
  rw [admission_eq, Account.admission, hs]
  rfl

theorem failures_fail (b : Breaker) (id : String) (now : Float) :
    0 < (b.act id (.fail now)).failures id := by
  change 0 < (b.recordFailure id now).val.failures id
  rw [failures_recordFailure]
  exact Nat.succ_pos _

theorem failures_status (b : Breaker) (id : String) (now : Float) :
    (b.status id now).val.1.failures = b.failures id := by
  rw [status_eq]
  exact Circuit.check_failures _ now

theorem closed_status_iff (b : Breaker) (id : String) (now : Float) :
    (b.status id now).val.1.state = .closed ↔ b.Closed id := by
  rw [status_eq]
  exact Circuit.check_state_eq_closed_iff _ now

theorem faultless_reset (b : Breaker) (id : String) : (b.reset id).Faultless id :=
  faultless_of_account (account_reset b id) rfl rfl

end Switchboard.Breaker
