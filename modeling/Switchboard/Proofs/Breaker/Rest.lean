import Switchboard.Breaker
import Switchboard.Proofs.Number.Threshold

namespace Switchboard.Circuit

open Number

variable {c : Circuit} {failed now later wait : Float} {φ τ μ : ℝ}

def remaining (ms failed now : Float) : Float := ms / 1000.0 - (now - failed)

theorem elapsed_of_failed (hf : c.lastFailure = some failed) (now : Float) :
    c.elapsed now = now - failed := by
  rw [elapsed, hf]

theorem retryAfter_of_opened (ho : c.state = .opened) (hf : c.lastFailure = some failed)
    (hr : c.retryAfter now = .ok wait) : ∃ ms, ofInt? c.limits.resetMs = some ms ∧
      wait = if 0.0 < remaining ms failed now then remaining ms failed now else 0.0 := by
  rw [retryAfter, if_pos ho, elapsed_of_failed hf] at hr
  cases hm : ofInt? c.limits.resetMs with
  | none =>
      rw [hm] at hr
      cases hr
  | some ms =>
      rw [hm] at hr
      exact ⟨ms, rfl, (Except.ok.inj hr).symm⟩

theorem quarters_le_timeout {reset : Nat} (hreset : reset ≤ 2 ^ 52) {ms : Float}
    (hms : ofInt? reset = some ms) :
    ∃ a : ℝ, value (ms / 1000.0) = a ∧ ((reset / 250 : Nat) : Int) / 4 ≤ a := by
  obtain ⟨x, hx, hvalue⟩ := ofInt?_of_short (z := reset) (by omega)
  obtain rfl : x = ms := Option.some.inj (hx.symm.trans hms)
  obtain ⟨a, ha⟩ := exists_value_div_thousand hvalue
  have hlow := (approximates_quarters (z := (reset / 250 : Nat)) (by omega)).mono
    (approximates_div_thousand hvalue) (by
      rw [div_le_div_iff₀ four_pos (by norm_num)]
      exact_mod_cast (by omega : reset / 250 * 1000 ≤ reset * 4))
  rw [ha, EReal.coe_le_coe_iff] at hlow
  exact ⟨a, ha, hlow⟩

theorem le_remaining {ms : Float} {a : ℝ} (ha : value (ms / 1000.0) = a) (hf : value failed = φ)
    (ht : value now = τ) {z w : Int} (hz : z.natAbs < 2 ^ 53) (hw : w.natAbs < 2 ^ 53)
    (he : τ - φ ≤ z / 4) (hsum : (w / 4 : ℝ) + z / 4 ≤ a) :
    ((w / 4 : ℝ) : EReal) ≤ value (remaining ms failed now) := by
  have helapsed := (approximates_sub_of_value ht hf).mono (approximates_quarters hz) he
  unfold remaining
  rcases unpack_cases (now - failed) with hnan | ⟨s, hinf⟩ | ⟨b, hb⟩
  · exact absurd hnan (isNumber_sub ht hf)
  · rw [value, hinf] at helapsed
    cases s with
    | positive => exact absurd helapsed (not_le.2 (EReal.coe_lt_top _))
    | negative =>
        rw [value_sub, hinf, worth_sub_negative_infinity, ha, if_neg (EReal.coe_ne_bot a)]
        exact le_top
  · rw [value, hb.worth_eq, EReal.coe_le_coe_iff] at helapsed
    exact (approximates_quarters hw).mono (approximates_sub_of_value ha hb.worth_eq) (by linarith)

theorem lt_elapsed_of_told (ho : c.state = .opened) (hlast : c.lastFailure = some failed)
    (hf : value failed = φ) (ht : value now = τ) (hreset : c.limits.resetMs ≤ 2 ^ 52)
    (hr : c.retryAfter now = .ok wait) {k n : Int} (hk : (Number.real wait).round? = some k)
    (hkn : k ≤ n) (hn : 0 ≤ n) (hsmall : n ≤ 2 ^ 50) :
    (((c.limits.resetMs / 250 : Nat) : Int) / 4 : ℝ) - n - 3 / 4 < τ - φ := by
  obtain ⟨ms, hms, hwait⟩ := retryAfter_of_opened ho hlast hr
  obtain ⟨a, ha, hquarters⟩ := quarters_le_timeout hreset hms
  obtain ⟨r, hvalue, hclose⟩ := round?_close hk
  by_contra hlong
  -- whole quarters are doubles, so that no rounding on the way passes one of them
  generalize hq : c.limits.resetMs / 250 = q at hquarters hlong
  have hleast : (((4 * n + 3 : Int) / 4 : ℝ) : EReal) ≤ value (remaining ms failed now) := by
    refine le_remaining ha hf ht (z := q - 4 * n - 3) (by omega) (by omega) ?_ ?_
    · push_cast at hlong ⊢
      linarith
    · push_cast at hquarters ⊢
      linarith
  have hpositive : (0.0 : Float) < remaining ms failed now := by
    have hreal : (0 : ℝ) < ((4 * n + 3 : Int) / 4 : ℝ) := by
      have : (0 : ℝ) < (4 * n + 3 : Int) := by exact_mod_cast (by omega : (0 : Int) < 4 * n + 3)
      positivity
    rw [lt_iff, value_zero]
    exact ⟨isNumber_of_ne_bot (value_zero ▸ EReal.coe_ne_bot 0),
      isNumber_of_ne_bot (ne_bot_of_le_ne_bot (EReal.coe_ne_bot _) hleast),
      (EReal.coe_lt_coe_iff.2 hreal).trans_le hleast⟩
  rw [if_pos hpositive] at hwait
  rw [← hwait, hvalue, EReal.coe_le_coe_iff] at hleast
  have hkn : (k : ℝ) ≤ n := by exact_mod_cast hkn
  have hround := (abs_le.1 hclose).1
  push_cast at hleast
  linarith

theorem rested_of_told (ho : c.state = .opened) (hlast : c.lastFailure = some failed)
    (hf : value failed = φ) (ht : value now = τ) (hu : value later = μ)
    (hreset : c.limits.resetMs ≤ 2 ^ 52) (hr : c.retryAfter now = .ok wait) {k n : Int}
    (hk : (Number.real wait).round? = some k) (hkn : k ≤ n) (hn : 0 ≤ n) (hsmall : n ≤ 2 ^ 50)
    (hlater : τ + n + 1 ≤ μ) : c.rested later = true := by
  have helapsed := lt_elapsed_of_told ho hlast hf ht hreset hr hk hkn hn hsmall
  generalize hq : c.limits.resetMs / 250 = q at helapsed
  have hquarters : (((q : Int) + 1 : Int) / 4 : ℝ) ≤ μ - φ := by
    push_cast at helapsed ⊢
    linarith
  have hlow := (approximates_quarters (z := q + 1) (by omega)).mono
    (approximates_sub_of_value hu hf) hquarters
  have hms := le_mul_thousand (by omega) hlow
  rw [rested, elapsed_of_failed hlast, leFloat_iff]
  refine le_trans (EReal.coe_le_coe_iff.2 ?_) hms
  exact_mod_cast (by omega : (c.limits.resetMs : Int) ≤ 250 * (q + 1))

end Switchboard.Circuit

namespace Switchboard.Breaker

theorem circuit_of_refused {b : Breaker} {id : String} {now : Float}
    (h : (b.admission id now).val.1.allowed = false) :
    ∃ c, b.circuits.get? id = some c ∧ c.state = .opened ∧ c.rested now = false := by
  cases hc : b.circuits.get? id with
  | none =>
      rw [admission_of_untracked hc] at h
      cases h
  | some c =>
      rw [admission_of_tracked hc] at h
      have hopen : (c.check now).state = .opened := by simpa using h
      rw [Circuit.check] at hopen
      split at hopen
      · cases hopen
      · next hn => exact ⟨c, rfl, hopen, Bool.eq_false_iff.2 fun hr => hn ⟨hopen, hr⟩⟩

end Switchboard.Breaker
