import Switchboard.Proofs.Breaker.Rest

namespace Switchboard

open Number

namespace Circuit

/-- The elapsed times at which no wait is left to tell, but the rest is not yet over. Below 2 ^ 53
milliseconds it is the quotient itself, where its product with a thousand falls short. -/
inductive Brink (reset : Nat) (ms elapsed : Float) : Prop
  | undefined : ¬ IsNumber elapsed → Brink reset ms elapsed
  | exact : value elapsed = value (ms / 1000.0) → value (elapsed * 1000.0) < ((reset : ℝ) : EReal) →
      Brink reset ms elapsed
  | short : value ms < ((reset : ℝ) : EReal) → value (ms / 1000.0) < value elapsed →
      value (elapsed * 1000.0) = value ms → Brink reset ms elapsed

variable {c : Circuit} {now ms e : Float} {reset : Nat}

theorem rested_eq_false_iff :
    c.rested now = false ↔ value (c.elapsed now * 1000.0) < ((c.limits.resetMs : ℝ) : EReal) := by
  rw [rested, Bool.eq_false_iff, ne_eq, leFloat_iff, not_le, Int.cast_natCast]

theorem brink_of_late (hms : ofInt? reset = some ms)
    (hshort : value (e * 1000.0) < ((reset : ℝ) : EReal)) (hnone : ¬ (0.0 : Float) < ms / 1000.0 - e) :
    Brink reset ms e := by
  obtain ⟨happroximates, a, ha⟩ := approximates_of_ofInt? hms
  obtain ⟨s, hs⟩ := exists_value_div_thousand ha
  by_cases he : IsNumber e
  · rw [zero_lt_sub_iff hs he, not_lt] at hnone
    rcases hnone.eq_or_lt with heq | hlt
    · exact .exact heq.symm hshort
    · have hback := le_mul_thousand_of_lt ha hlt
      refine .short (hback.trans_lt hshort) hlt (le_antisymm ?_ hback)
      have htop := (hshort.trans (EReal.coe_lt_top _)).ne
      have hbot := ne_bot_of_le_ne_bot (ha ▸ EReal.coe_ne_bot a) hback
      have hp := (EReal.coe_toReal htop hbot).symm
      rw [hp, EReal.coe_lt_coe_iff] at hshort
      exact (approximates_of_value hp).mono happroximates hshort.le
  · exact .undefined he

theorem Brink.late (h : Brink reset ms e) (hms : ofInt? reset = some ms) :
    value (e * 1000.0) < ((reset : ℝ) : EReal) ∧ ¬ (0.0 : Float) < ms / 1000.0 - e := by
  obtain ⟨-, a, ha⟩ := approximates_of_ofInt? hms
  obtain ⟨s, hs⟩ := exists_value_div_thousand ha
  cases h with
  | undefined hnan =>
      refine ⟨?_, not_lt_sub_of_not_isNumber hnan⟩
      rw [value_mul, not_not.1 hnan, unpack_thousand]
      exact EReal.bot_lt_coe _
  | exact heq hshort =>
      have he : IsNumber e := isNumber_of_ne_bot (heq ▸ hs ▸ EReal.coe_ne_bot s)
      refine ⟨hshort, ?_⟩
      rw [zero_lt_sub_iff hs he, heq]
      exact lt_irrefl _
  | short hless hlt hback =>
      have he : IsNumber e := isNumber_of_ne_bot (ne_bot_of_gt hlt)
      refine ⟨hback ▸ hless, ?_⟩
      rw [zero_lt_sub_iff hs he]
      exact hlt.not_gt

theorem Brink.eq_quotient (h : Brink reset ms e) (hms : ofInt? reset = some ms)
    (hreset : reset < 2 ^ 53) (he : IsNumber e) : value e = value (ms / 1000.0) := by
  cases h with
  | undefined hnan => exact absurd he hnan
  | exact heq hshort => exact heq
  | short hless hlt hback =>
      obtain ⟨x, hx, hvalue⟩ := ofInt?_of_short (z := reset) (by omega)
      obtain rfl : x = ms := Option.some.inj (hx.symm.trans hms)
      rw [hvalue, Int.cast_natCast] at hless
      exact absurd hless (lt_irrefl _)

theorem retryAfter_of_not_opened (h : c.state ≠ .opened) (now : Float) :
    c.retryAfter now = .ok 0.0 := by
  rw [retryAfter, if_neg h]

theorem retryAfter_of_none (ho : c.state = .opened) (hms : ofInt? c.limits.resetMs = none) :
    c.retryAfter now = .error (.overflow .operand) := by
  rw [retryAfter, if_pos ho, hms]

theorem retryAfter_of_some (ho : c.state = .opened) (hms : ofInt? c.limits.resetMs = some ms) :
    c.retryAfter now = .ok (if (0.0 : Float) < ms / 1000.0 - c.elapsed now
      then ms / 1000.0 - c.elapsed now else 0.0) := by
  rw [retryAfter, if_pos ho, hms]

theorem isFinite_retryAfter {failed wait : Float} (hlast : c.lastFailure = some failed)
    (hfinite : isFinite failed = true) (hle : failed ≤ now) (h : c.retryAfter now = .ok wait) :
    isFinite wait = true := by
  have hnought : isFinite 0.0 = true := isFinite_of_value value_zero
  by_cases ho : c.state = .opened
  · cases hms : ofInt? c.limits.resetMs with
    | none => cases (retryAfter_of_none ho hms).symm.trans h
    | some ms =>
        rw [retryAfter_of_some ho hms] at h
        cases h
        split
        · next hpos =>
            obtain ⟨-, a, ha⟩ := approximates_of_ofInt? hms
            obtain ⟨s, hs⟩ := exists_value_div_thousand ha
            obtain ⟨φ, hφ⟩ := value_of_isFinite hfinite
            rw [elapsed_of_failed hlast] at hpos ⊢
            exact isFinite_sub hs (zero_le_value_sub hφ hle) hpos
        · exact hnought
  · cases (retryAfter_of_not_opened ho now).symm.trans h
    exact hnought

end Circuit

namespace Breaker

def OnBrink (b : Breaker) (id : String) (now : Float) : Prop :=
  ∃ c ms, b.circuits.get? id = some c ∧ c.state = .opened ∧ ofInt? c.limits.resetMs = some ms ∧
    Circuit.Brink c.limits.resetMs ms (c.elapsed now)

def Boundless (b : Breaker) (id : String) (now : Float) : Prop :=
  ∃ c, b.circuits.get? id = some c ∧ c.state = .opened ∧ c.rested now = false ∧
    2 ^ 1024 - 2 ^ 970 ≤ c.limits.resetMs

variable {b : Breaker} {id : String} {now : Float} {c : Circuit}

theorem retryAfter_of_tracked (h : b.circuits.get? id = some c) (now : Float) :
    b.retryAfter id now = c.retryAfter now := by
  rw [retryAfter, h]

theorem refused_of_unrested (hc : b.circuits.get? id = some c) (ho : c.state = .opened)
    (hr : c.rested now = false) : (b.admission id now).val.1.allowed = false := by
  have hcheck : c.check now = c := by
    rw [Circuit.check, if_neg]
    simp [hr]
  rw [admission_of_tracked hc, hcheck, ho]
  rfl

theorem refused_of_onBrink (h : b.OnBrink id now) : (b.admission id now).val.1.allowed = false := by
  obtain ⟨c, ms, hc, ho, hms, hbrink⟩ := h
  exact refused_of_unrested hc ho (Circuit.rested_eq_false_iff.2 (hbrink.late hms).1)

theorem retryAfter_of_onBrink (h : b.OnBrink id now) : b.retryAfter id now = .ok 0.0 := by
  obtain ⟨c, ms, hc, ho, hms, hbrink⟩ := h
  rw [retryAfter_of_tracked hc, Circuit.retryAfter_of_some ho hms, if_neg (hbrink.late hms).2]

theorem refused_of_boundless (h : b.Boundless id now) :
    (b.admission id now).val.1.allowed = false := by
  obtain ⟨c, hc, ho, hr, -⟩ := h
  exact refused_of_unrested hc ho hr

theorem retryAfter_of_boundless (h : b.Boundless id now) :
    b.retryAfter id now = .error (.overflow .operand) := by
  obtain ⟨c, hc, ho, -, hreset⟩ := h
  rw [retryAfter_of_tracked hc, Circuit.retryAfter_of_none ho ((ofInt?_eq_none_iff _).2 hreset)]

theorem waits_of_refused (h : (b.admission id now).val.1.allowed = false) :
    (∃ wait, b.retryAfter id now = .ok wait ∧ (0.0 : Float) < wait) ∨ b.Boundless id now ∨
      b.OnBrink id now := by
  obtain ⟨c, hc, ho, hr⟩ := circuit_of_refused h
  cases hms : ofInt? c.limits.resetMs with
  | none => exact .inr (.inl ⟨c, hc, ho, hr, (ofInt?_eq_none_iff _).1 hms⟩)
  | some ms =>
      rw [retryAfter_of_tracked hc, Circuit.retryAfter_of_some ho hms]
      by_cases hleft : (0.0 : Float) < ms / 1000.0 - c.elapsed now
      · rw [if_pos hleft]
        exact .inl ⟨_, rfl, hleft⟩
      · exact .inr (.inr ⟨c, ms, hc, ho, hms,
          Circuit.brink_of_late hms (Circuit.rested_eq_false_iff.1 hr) hleft⟩)

theorem retryAfter_of_allowed (h : (b.admission id now).val.1.allowed = true) :
    (b.admission id now).val.2.retryAfter id now = .ok 0.0 := by
  cases hc : b.circuits.get? id with
  | none =>
      rw [admission_of_untracked hc, retryAfter, hc]
  | some c =>
      rw [admission_of_tracked hc] at h ⊢
      rw [retryAfter_of_tracked (Roster.get?_put_self _ _ _)]
      exact Circuit.retryAfter_of_not_opened (of_decide_eq_true h) now

theorem asked_of_refused (h : (b.admission id now).val.1.allowed = false) :
    (b.admission id now).val.2 = b := by
  rw [admission_of_refused h]

theorem refused_iff : (b.admission id now).val.1.allowed = false ↔
    (∃ wait, (b.admission id now).val.2.retryAfter id now = .ok wait ∧ (0.0 : Float) < wait) ∨
      b.Boundless id now ∨ b.OnBrink id now := by
  constructor
  · intro h
    rw [asked_of_refused h]
    exact waits_of_refused h
  · rintro (⟨wait, hwait, hpos⟩ | hboundless | hbrink)
    · by_contra ha
      rw [retryAfter_of_allowed (Bool.eq_true_of_not_eq_false ha)] at hwait
      cases hwait
      exact absurd hpos (by decide +kernel)
    · exact refused_of_boundless hboundless
    · exact refused_of_onBrink hbrink

theorem retryAfter_eq_overflow_iff :
    (b.admission id now).val.2.retryAfter id now = .error (.overflow .operand) ↔
      b.Boundless id now := by
  constructor
  · intro h
    cases ha : (b.admission id now).val.1.allowed with
    | true =>
        rw [retryAfter_of_allowed ha] at h
        cases h
    | false =>
        rw [asked_of_refused ha] at h
        rcases waits_of_refused ha with ⟨wait, hwait, -⟩ | hboundless | hbrink
        · rw [hwait] at h
          cases h
        · exact hboundless
        · rw [retryAfter_of_onBrink hbrink] at h
          cases h
  · intro h
    rw [asked_of_refused (refused_of_boundless h), retryAfter_of_boundless h]

theorem refused_iff_of_nought (h : b.retryAfter id now = .ok 0.0) :
    (b.admission id now).val.1.allowed = false ↔ b.OnBrink id now := by
  refine ⟨fun ha => ?_, refused_of_onBrink⟩
  rcases waits_of_refused ha with ⟨wait, hwait, hpos⟩ | hboundless | hbrink
  · rw [h] at hwait
    cases hwait
    exact absurd hpos (by decide +kernel)
  · rw [retryAfter_of_boundless hboundless] at h
    cases h
  · exact hbrink

theorem brink_of_tracked {ms : Float} (h : b.OnBrink id now) (hc : b.circuits.get? id = some c)
    (hms : ofInt? c.limits.resetMs = some ms) :
    Circuit.Brink c.limits.resetMs ms (c.elapsed now) := by
  obtain ⟨found, told, hfound, -, htold, hbrink⟩ := h
  obtain rfl : found = c := Option.some.inj (hfound.symm.trans hc)
  obtain rfl : told = ms := Option.some.inj (htold.symm.trans hms)
  exact hbrink

end Breaker

end Switchboard
