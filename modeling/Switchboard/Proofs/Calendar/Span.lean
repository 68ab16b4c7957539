import Switchboard.Calendar
import Switchboard.Proofs.Number.Conversion

namespace Switchboard

namespace Number

theorem power_pos (e : Int) : 0 < power 2 e := Nat.two_pow_pos _

theorem power_of_nonpos {e : Int} (h : e ≤ 0) : power 2 e = 1 := by
  rw [power, Int.toNat_of_nonpos h, Nat.pow_eq, pow_zero]

namespace Binary

variable {b : Binary}

def wholePart (b : Binary) : Nat := b.mantissa * power 2 b.exponent / power 2 (-b.exponent)

def remainder (b : Binary) : Nat := b.mantissa % power 2 (-b.exponent)

theorem remainder_lt (b : Binary) : b.remainder < power 2 (-b.exponent) :=
  Nat.mod_lt _ (power_pos _)

theorem remainder_eq (b : Binary) :
    b.remainder = b.mantissa * power 2 b.exponent % power 2 (-b.exponent) := by
  rcases Int.le_total 0 b.exponent with h | h
  · rw [remainder, power_of_nonpos (Int.neg_nonpos_of_nonneg h), Nat.mod_one, Nat.mod_one]
  · rw [remainder, power_of_nonpos h, Nat.mul_one]

theorem magnitude_eq_parts (b : Binary) :
    magnitude b.mantissa b.exponent = b.wholePart + b.remainder / power 2 (-b.exponent) := by
  have hpos : (0 : ℝ) < power 2 (-b.exponent) := by exact_mod_cast power_pos _
  have hsum : (power 2 (-b.exponent) * b.wholePart + b.remainder : ℝ) =
      b.mantissa * power 2 b.exponent := by
    rw [remainder_eq]
    exact_mod_cast Nat.div_add_mod (b.mantissa * power 2 b.exponent) (power 2 (-b.exponent))
  rw [magnitude, zpow_eq_power_div, ← mul_div_assoc, div_eq_iff hpos.ne', add_mul,
    div_mul_cancel₀ _ hpos.ne', ← hsum]
  ring

theorem magnitude_remainder (b : Binary) :
    magnitude b.remainder b.exponent = b.remainder / power 2 (-b.exponent) := by
  rw [magnitude, zpow_eq_power_div]
  rcases Int.le_total 0 b.exponent with h | h
  · have hzero : b.remainder = 0 := by
      rw [remainder, power_of_nonpos (Int.neg_nonpos_of_nonneg h), Nat.mod_one]
    simp [hzero]
  · rw [power_of_nonpos h, Nat.cast_one, mul_one_div]

theorem signed_of_nonneg (h : 0 ≤ b.real) : b.signed = b.mantissa := by
  have hpos : (0 : ℝ) < 2 ^ b.exponent := by positivity
  have hsigned : (0 : ℝ) ≤ b.signed := nonneg_of_mul_nonneg_left h hpos
  have hsigned : 0 ≤ b.signed := by exact_mod_cast hsigned
  unfold signed at hsigned ⊢
  split at hsigned
  · next hn =>
      rw [if_pos hn]
      omega
  · next hn => rw [if_neg hn]

theorem real_of_nonneg (h : 0 ≤ b.real) :
    b.real = b.wholePart + b.remainder / power 2 (-b.exponent) := by
  rw [real, signed_of_nonneg h, ← magnitude_eq_parts]
  rfl

theorem trunc_of_nonneg (h : 0 ≤ b.real) : b.trunc = b.wholePart := by
  rw [trunc, signed_of_nonneg h, wholePart]
  exact Int.ofNat_tdiv _ _

theorem mantissa_of_negative (h : 0 ≤ b.real) (hn : b.negative = true) : b.mantissa = 0 := by
  have hs := signed_of_nonneg h
  rw [signed, if_pos hn] at hs
  omega

theorem approximates_fraction (h : 0 ≤ b.real) :
    Approximates (b.remainder / power 2 (-b.exponent)) (value b.fraction) := by
  have hreal : real { b with mantissa := b.remainder } = b.remainder / power 2 (-b.exponent) := by
    rw [← magnitude_remainder, real_eq]
    cases hn : b.negative with
    | false => rfl
    | true =>
        have hzero : b.remainder = 0 := by
          rw [remainder, mantissa_of_negative h hn, Nat.zero_mod]
        simp [hzero, magnitude, signOf, Number.signed]
  rw [← hreal]
  exact approximates_toFloat _

end Binary

end Number

namespace Span

open Number

theorem carry_of_nonneg {b : Binary} (h : 0 ≤ b.real) (n : Nat) :
    n + carry n b =
      (if power 2 (-b.exponent) < 2 * b.remainder ∨
          2 * b.remainder = power 2 (-b.exponent) ∧ n % 2 = 1 then n + 1 else n : Nat) := by
  have hsign : 0 < b.remainder → b.negative = false := by
    intro hr
    refine Bool.eq_false_iff.2 fun hn => ?_
    rw [Binary.remainder, Binary.mantissa_of_negative h hn, Nat.zero_mod] at hr
    exact absurd hr (by omega)
  have hpos := power_pos (-b.exponent)
  have hrem : b.mantissa % power 2 (-b.exponent) = b.remainder := rfl
  unfold carry
  dsimp only
  rw [hrem]
  generalize power 2 (-b.exponent) = den at hpos
  rcases lt_trichotomy (2 * b.remainder) den with hr | hr | hr
  · have hdown : ¬ (den < 2 * b.remainder ∨ 2 * b.remainder = den ∧ n % 2 = 1) := by omega
    rw [compare_lt_iff_lt.2 hr, if_neg hdown]
    simp
  · rw [compare_eq_iff_eq.2 hr, hsign (by omega)]
    by_cases hodd : n % 2 = 1
    · have hup : den < 2 * b.remainder ∨ 2 * b.remainder = den ∧ n % 2 = 1 := .inr ⟨hr, hodd⟩
      have hodd : (n : Int) % 2 = 1 := by omega
      simp [hodd, if_pos hup]
    · have hdown : ¬ (den < 2 * b.remainder ∨ 2 * b.remainder = den ∧ n % 2 = 1) := by omega
      have hodd : ¬ (n : Int) % 2 = 1 := by omega
      simp [hodd, if_neg hdown]
  · have hup : den < 2 * b.remainder ∨ 2 * b.remainder = den ∧ n % 2 = 1 := .inl hr
    rw [compare_gt_iff_gt.2 hr, hsign (by omega), if_pos hup]
    simp

theorem nearest_carry {b : Binary} (h : 0 ≤ b.real) (n : Nat) :
    ∃ m : Nat, n + b.trunc + carry (n + b.trunc) b = m ∧ Nearest (n + b.real) m := by
  have hsum : (n : Int) + b.trunc = ((n + b.wholePart : Nat) : Int) := by
    rw [Binary.trunc_of_nonneg h]
    rfl
  refine ⟨_, by rw [hsum]; exact carry_of_nonneg h _, ?_⟩
  have hnear := nearest_quotient (n + b.wholePart) b.remainder_lt
  rw [Nat.cast_add, add_assoc, ← Binary.real_of_nonneg h] at hnear
  exact hnear

theorem eq_of_checkDays {n a : Int} (h : checkDays n = .ok a) : a = n := by
  unfold checkDays at h
  dsimp only at h
  split_ifs at h
  exact (Except.ok.inj h).symm

theorem checkDays_of_short {n : Nat} (h : n < Instant.dayCount * microsPerDay) :
    checkDays n = .ok n := by
  have hdays : n / microsPerDay < Instant.dayCount :=
    Nat.div_lt_of_lt_mul (by rwa [Nat.mul_comm])
  have hbound : ((Instant.dayCount : Nat) : Int) < Number.power 2 31 := by decide
  have hmost : Instant.dayCount ≤ 999999999 := by decide
  have hfdiv : (n : Int).fdiv microsPerDay = (n / microsPerDay : Nat) := by
    rw [Int.fdiv_eq_ediv_of_nonneg _ (Int.natCast_nonneg _)]
    rfl
  unfold checkDays
  dsimp only
  rw [hfdiv]
  generalize n / microsPerDay = days at hdays
  rw [if_neg (by omega), if_neg (by omega)]

/-- The whole hours count as they are; only the part of an hour goes through a double. -/
inductive Measured (x : Float) : Nat → Prop
  | mk {w n : Nat} {f v : ℝ} {part : Float} : value x = ((w + f : ℝ) : EReal) → 0 ≤ f → f < 1 →
      Approximates f (value part) → value (ofRatio microsPerHour 1 * part) = (v : ℝ) →
      Nearest (w * microsPerHour + v) n → Measured x n

theorem Measured.value_eq {x : Float} {n : Nat} (h : Measured x n) :
    ∃ r : ℝ, 0 ≤ r ∧ value x = r := by
  obtain @⟨w, _, f, v, part, hx, hf, -, -, -, -⟩ := h
  exact ⟨w + f, by positivity, hx⟩

theorem unpack_hour : (ofRatio microsPerHour 1).toModel.unpack =
    .finite .positive 7549747200000000 (-21) (by norm_num) := by
  rfl

theorem value_hour_mul_le {x y : Float} (h : value x ≤ value y) :
    value (ofRatio microsPerHour 1 * x) ≤ value (ofRatio microsPerHour 1 * y) := by
  rw [value_mul_comm _ x, value_mul_comm _ y]
  exact value_mul_le unpack_hour h

theorem value_hour_mul_zero :
    value (ofRatio microsPerHour 1 * Binary.toFloat ⟨false, 0, 0⟩) = 0 := by
  have hu : (ofRatio microsPerHour 1 * Binary.toFloat ⟨false, 0, 0⟩).toModel.unpack =
      .zero .positive := by rfl
  rw [value, hu]
  rfl

theorem value_hour_mul_one :
    value (ofRatio microsPerHour 1 * Binary.toFloat ⟨false, 1, 0⟩) = (microsPerHour : ℝ) := by
  have hu : (ofRatio microsPerHour 1 * Binary.toFloat ⟨false, 1, 0⟩).toModel.unpack =
      .finite .positive 7549747200000000 (-21) (by norm_num) := by rfl
  have hexact : magnitude 7549747200000000 (-21) = microsPerHour := by
    norm_num [magnitude, microsPerHour, microsPerSecond]
  rw [value, hu, ← hexact]
  rfl

theorem value_hour_mul_nonneg {f : ℝ} {part : Float} (hf : 0 ≤ f)
    (h : Approximates f (value part)) : 0 ≤ value (ofRatio microsPerHour 1 * part) := by
  rw [← value_hour_mul_zero]
  exact value_hour_mul_le ((approximates_natCast 0).mono h (by rwa [Nat.cast_zero]))

theorem value_hour_mul_le_hour {f : ℝ} {part : Float} (hf : f ≤ 1)
    (h : Approximates f (value part)) :
    value (ofRatio microsPerHour 1 * part) ≤ (microsPerHour : ℝ) := by
  rw [← value_hour_mul_one]
  exact value_hour_mul_le (h.mono (approximates_natCast 1) (by rwa [Nat.cast_one]))

theorem ofHours_of_value {x : Float} {r : ℝ} (hr : 0 ≤ r) (hx : value x = r) :
    ∃ n : Nat, Measured x n ∧ ofHours x = checkDays n := by
  obtain ⟨b, hb, rfl⟩ := exists_ofFloat? hx
  rw [Binary.real_of_nonneg hr] at hx
  have hden : (0 : ℝ) < power 2 (-b.exponent) := by exact_mod_cast power_pos _
  have hpart : (0 : ℝ) ≤ b.remainder / power 2 (-b.exponent) := by positivity
  have hless : (b.remainder : ℝ) / power 2 (-b.exponent) < 1 :=
    (div_lt_one hden).2 (by exact_mod_cast b.remainder_lt)
  have happrox := Binary.approximates_fraction hr
  have hlow := value_hour_mul_nonneg hpart happrox
  have hbot := ne_bot_of_le_ne_bot (EReal.coe_ne_bot 0) hlow
  have htop := ne_top_of_le_ne_top (EReal.coe_ne_top _) (value_hour_mul_le_hour hless.le happrox)
  obtain ⟨s, hs, hreal⟩ := exists_ofFloat? (EReal.coe_toReal htop hbot).symm
  have hscaled := value_of_ofFloat? hs
  have hs0 : 0 ≤ s.real := EReal.coe_nonneg.1 (hscaled ▸ hlow)
  obtain ⟨n, hn, hnear⟩ := nearest_carry hs0 (b.wholePart * microsPerHour)
  refine ⟨n, .mk hx hpart hless happrox hscaled (by exact_mod_cast hnear), ?_⟩
  unfold ofHours ofUnits
  simp only [hb, hs]
  rw [Binary.trunc_of_nonneg hr, ← hn]
  push_cast
  rfl

theorem measured_of_ofHours {x : Float} {a : Int} (hx : 0 ≤ value x) (h : ofHours x = .ok a) :
    ∃ n : Nat, a = n ∧ Measured x n := by
  cases hb : Binary.ofFloat? x with
  | none => simp [ofHours, ofUnits, hb] at h
  | some b =>
      have hvalue := value_of_ofFloat? hb
      obtain ⟨n, hm, heq⟩ := ofHours_of_value (EReal.coe_nonneg.1 (hvalue ▸ hx)) hvalue
      exact ⟨n, eq_of_checkDays (heq ▸ h), hm⟩

/-- Within one hour the rounded parts decide, and from one hour to the next the hour itself, which
no rounded part exceeds. -/
theorem Measured.mono {x y : Float} {m n : Nat} (hm : Measured x m) (hn : Measured y n)
    (h : value x ≤ value y) : m ≤ n := by
  obtain @⟨k, _, f, v, part, hx, hf0, hf1, hpart, hv, hm⟩ := hm
  obtain @⟨l, _, g, w, rest, hy, hg0, hg1, hrest, hw, hn⟩ := hn
  rw [hx, hy, EReal.coe_le_coe_iff] at h
  have hkl : k ≤ l := by
    have hless : (k : ℝ) < l + 1 := by linarith
    exact Nat.lt_succ_iff.1 (by exact_mod_cast hless)
  rcases hkl.eq_or_lt with rfl | hlt
  · have hfg : f ≤ g := by linarith
    have hvw : v ≤ w := by
      rw [← EReal.coe_le_coe_iff, ← hv, ← hw]
      exact value_hour_mul_le (hpart.mono hrest hfg)
    exact hm.mono hn (by linarith)
  · have hv1 : v ≤ microsPerHour := by
      rw [← EReal.coe_le_coe_iff, ← hv]
      exact value_hour_mul_le_hour hf1.le hpart
    have hw0 : 0 ≤ w := by
      rw [← EReal.coe_nonneg, ← hw]
      exact value_hour_mul_nonneg hg0 hrest
    have hstep : ((k + 1 : Nat) * microsPerHour : ℝ) ≤ l * microsPerHour := by
      exact_mod_cast Nat.mul_le_mul_right microsPerHour hlt
    refine hm.mono hn ?_
    push_cast at hstep
    linarith

theorem ofHours_mono {x y : Float} {a b : Int} (hx : 0 ≤ value x) (h : value x ≤ value y)
    (ha : ofHours x = .ok a) (hb : ofHours y = .ok b) : a ≤ b := by
  obtain ⟨m, rfl, hm⟩ := measured_of_ofHours hx ha
  obtain ⟨n, rfl, hn⟩ := measured_of_ofHours (hx.trans h) hb
  exact_mod_cast hm.mono hn h

end Span

end Switchboard
