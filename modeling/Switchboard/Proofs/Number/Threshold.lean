import Switchboard.Proofs.Number.Exact

namespace Switchboard.Number

open Float.Model Float.Model.UnpackedFloat

variable {x y : Float} {a b : ℝ} {n : Nat}

theorem exists_short_of_value (h : value x = a) :
    ∃ z e : Int, z.natAbs < 2 ^ 53 ∧ -1074 ≤ e ∧ e ≤ 971 ∧ a = z * 2 ^ e := by
  have hm := measures_of_value h
  cases hu : x.toModel.unpack with
  | notANumber => rw [hu] at hm; cases hm
  | infinity s => rw [hu] at hm; cases hm
  | zero s =>
      rw [hu] at hm
      cases hm
      exact ⟨0, 0, by norm_num, by norm_num, by norm_num, by norm_num⟩
  | finite s m e hpos =>
      obtain ⟨hc, he⟩ := canonical_of_unpack hu
      have hbelow := hc.below
      rw [hu] at hm
      cases hm
      cases s with
      | negative => exact ⟨-m, e, by omega, hc.least, he, by simp [signed, magnitude]⟩
      | positive => exact ⟨m, e, by omega, hc.least, he, by simp [signed, magnitude]⟩

theorem approximates_of_value (h : value x = a) : Approximates a (value x) := by
  rw [h]
  obtain ⟨z, e, hz, he, he', rfl⟩ := exists_short_of_value h
  exact approximates_of_short hz he he'

theorem exists_least_of_value (h : value x = a) : ∃ k : Int, a = k * 2 ^ (-1074 : Int) := by
  obtain ⟨z, e, -, he, -, rfl⟩ := exists_short_of_value h
  obtain ⟨j, hj⟩ := Int.eq_ofNat_of_zero_le (Int.sub_nonneg_of_le he)
  refine ⟨z * 2 ^ j, ?_⟩
  rw [show e = j + -1074 by omega, zpow_add₀ two_ne_zero, zpow_natCast]
  push_cast
  ring

theorem zero_lt_iff : (0.0 : Float) < x ↔ ((0 : ℝ) : EReal) < value x := by
  rw [lt_iff, value_zero]
  refine ⟨fun h => h.2.2, fun h => ⟨?_, isNumber_of_ne_bot (ne_bot_of_gt h), h⟩⟩
  exact isNumber_of_ne_bot (value_zero ▸ EReal.coe_ne_bot 0)

theorem approximates_least : Approximates (2 ^ (-1074 : Int)) ((2 ^ (-1074 : Int) : ℝ) : EReal) := by
  have h := approximates_of_short (z := 1) (e := -1074) (by norm_num) le_rfl (by norm_num)
  rwa [Int.cast_one, one_mul] at h

theorem approximates_nought : Approximates 0 ((0 : ℝ) : EReal) := by
  have h := approximates_of_short (z := 0) (e := 0) (by norm_num) (by norm_num) (by norm_num)
  rwa [Int.cast_zero, zero_mul] at h

/-- Doubles lie on one lattice, so that a difference never vanishes by rounding. -/
theorem zero_lt_sub_of_value (hx : value x = a) (hy : value y = b) :
    (0.0 : Float) < x - y ↔ b < a := by
  have hsub := approximates_sub_of_value hx hy
  rw [zero_lt_iff]
  constructor
  · intro h
    by_contra hle
    exact h.not_ge (hsub.mono approximates_nought (sub_nonpos.2 (not_lt.1 hle)))
  · intro h
    obtain ⟨j, rfl⟩ := exists_least_of_value hx
    obtain ⟨k, rfl⟩ := exists_least_of_value hy
    have hpos : (0 : ℝ) < 2 ^ (-1074 : Int) := by positivity
    have hstep : (1 : ℝ) ≤ j - k := by
      have hlt : k < j := by exact_mod_cast lt_of_mul_lt_mul_right h hpos.le
      exact_mod_cast (by omega : 1 ≤ j - k)
    refine (EReal.coe_lt_coe_iff.2 hpos).trans_le (approximates_least.mono hsub ?_)
    rw [← sub_mul]
    exact le_mul_of_one_le_left hpos.le hstep

theorem zero_lt_sub_iff (hx : value x = a) (hy : IsNumber y) :
    (0.0 : Float) < x - y ↔ value y < value x := by
  rcases unpack_cases y with hnan | ⟨s, hinf⟩ | ⟨b, hb⟩
  · exact absurd hnan hy
  · rw [zero_lt_iff, value_sub, hinf, hx, value, hinf]
    cases s with
    | negative =>
        rw [worth_sub_negative_infinity, hx, if_neg (EReal.coe_ne_bot a)]
        exact iff_of_true (EReal.coe_lt_top 0) (EReal.bot_lt_coe a)
    | positive =>
        rw [worth_sub_positive_infinity]
        exact iff_of_false not_lt_bot (EReal.coe_lt_top a).not_gt
  · have hvalue : value y = b := hb.worth_eq
    rw [zero_lt_sub_of_value hx hvalue, hx, hvalue, EReal.coe_lt_coe_iff]

theorem not_lt_sub_of_not_isNumber (hy : ¬ IsNumber y) : ¬ (0.0 : Float) < x - y := by
  have hnan : UnpackedFloat.sub Format.binary64 x.toModel.unpack .notANumber = .notANumber := by
    cases x.toModel.unpack <;> rfl
  rw [zero_lt_iff, value_sub, not_not.1 hy, hnan]
  exact not_lt_bot

theorem zero_le_value_sub (hy : value y = b) (h : y ≤ x) : ((0 : ℝ) : EReal) ≤ value (x - y) := by
  have hself := approximates_sub_of_value hy hy
  rw [sub_self] at hself
  rw [approximates_nought.unique hself]
  exact value_sub_le ((le_iff y x).1 h).2.2 y

theorem isFinite_sub (hx : value x = a) (hy : ((0 : ℝ) : EReal) ≤ value y)
    (hpos : (0.0 : Float) < x - y) : isFinite (x - y) = true := by
  have hnumber : IsNumber y := isNumber_of_ne_bot (ne_bot_of_le_ne_bot (EReal.coe_ne_bot 0) hy)
  have hless := (zero_lt_sub_iff hx hnumber).1 hpos
  have hreal := (EReal.coe_toReal (hx ▸ hless).ne_top
    (ne_bot_of_le_ne_bot (EReal.coe_ne_bot 0) hy)).symm
  rw [hreal, EReal.coe_le_coe_iff] at hy
  have hhigh := (approximates_sub_of_value hx hreal).mono (approximates_of_value hx)
    (sub_le_self a hy)
  rw [hx] at hhigh
  exact isFinite_of_value (EReal.coe_toReal (ne_top_of_le_ne_top (EReal.coe_ne_top a) hhigh)
    (ne_bot_of_gt (zero_lt_iff.1 hpos))).symm

theorem exists_value_div_thousand (hx : value x = a) : ∃ r : ℝ, value (x / 1000.0) = r := by
  have hself := approximates_of_value hx
  have hquotient := approximates_div_thousand hx
  rw [hx] at hself
  have hreal {l h : ℝ} (hl : (l : EReal) ≤ value (x / 1000.0))
      (hh : value (x / 1000.0) ≤ (h : EReal)) : ∃ r : ℝ, value (x / 1000.0) = r :=
    ⟨_, (EReal.coe_toReal (ne_top_of_le_ne_top (EReal.coe_ne_top h) hh)
      (ne_bot_of_le_ne_bot (EReal.coe_ne_bot l) hl)).symm⟩
  rcases le_total 0 a with h | h
  · exact hreal (approximates_nought.mono hquotient (by positivity))
      (hquotient.mono hself (div_le_self h (by norm_num)))
  · exact hreal (hself.mono hquotient (by linarith))
      (hquotient.mono approximates_nought (by linarith))

theorem le_mul_thousand_of_lt (hx : value x = a) (h : value (x / 1000.0) < value y) :
    value x ≤ value (y * 1000.0) := by
  rcases unpack_cases y with hnan | ⟨s, hinf⟩ | ⟨b, hb⟩
  · rw [value, value, hnan] at h
    exact absurd h not_lt_bot
  · cases s with
    | negative =>
        rw [value, value, hinf] at h
        exact absurd h not_lt_bot
    | positive =>
        rw [value_mul, hinf, unpack_thousand]
        exact le_top
  · have hvalue : value y = b := hb.worth_eq
    by_contra hlt
    have hless : b * 1000 < a := by
      by_contra hge
      exact hlt ((approximates_of_value hx).mono (approximates_mul_thousand hvalue) (not_lt.1 hge))
    refine h.not_ge ((approximates_of_value hvalue).mono (approximates_div_thousand hx) ?_)
    rw [le_div_iff₀ (by norm_num)]
    exact hless.le

theorem ofInt?_natCast (n : Nat) : ofInt? n =
    if isFinite (Binary.toFloat ⟨false, n, 0⟩) then some (Binary.toFloat ⟨false, n, 0⟩)
    else none := by
  have hneg : decide ((n : Int) < 0) = false := decide_eq_false (by omega)
  rw [ofInt?, hneg, Int.natAbs_natCast]

theorem approximates_of_ofInt? (h : ofInt? n = some x) :
    Approximates n (value x) ∧ ∃ a : ℝ, value x = a := by
  rw [ofInt?_natCast] at h
  split at h
  · next hfinite =>
      cases h
      exact ⟨approximates_natCast n, value_of_isFinite hfinite⟩
  · cases h

/-- Halfway between the greatest double and the next power of two. -/
theorem limit_eq : ((2 ^ 1024 - 2 ^ 970 : Nat) : ℝ) = (2 ^ 54 - 1) * 2 ^ (970 : Int) := by
  have hnat : 2 ^ 1024 - 2 ^ 970 = (2 ^ 54 - 1) * 2 ^ 970 := by
    rw [Nat.sub_mul, one_mul, ← pow_add]
  rw [hnat, Nat.cast_mul, Nat.cast_pow, ← zpow_natCast]
  norm_num

theorem magnitude_overflow : magnitude (2 ^ 53) 971 = 2 ^ (1024 : Int) := by
  rw [magnitude, Nat.cast_pow, ← zpow_natCast, Nat.cast_ofNat, ← zpow_add₀ two_ne_zero]
  rfl

theorem two_zpow_top : (2 : ℝ) ^ (971 : Int) = 2 * 2 ^ (970 : Int) := zpow_one_add₀ two_ne_zero 970

theorem grid_limit : Grid ((2 ^ 54 - 1) * 2 ^ (970 : Int)) 971 := by
  have hpos : (0 : ℝ) < 2 ^ (970 : Int) := by positivity
  refine ⟨by norm_num, ?_, .inl ?_⟩
  · rw [zpow_add₀ two_ne_zero, two_zpow_top]
    generalize (2 : ℝ) ^ (970 : Int) = p at hpos
    norm_num
    linarith
  · rw [zpow_add₀ two_ne_zero, two_zpow_top]
    generalize (2 : ℝ) ^ (970 : Int) = p at hpos
    norm_num
    linarith

theorem rounds_limit : Rounds ((2 ^ 54 - 1) * 2 ^ (970 : Int)) (2 ^ (1024 : Int)) := by
  have hpos : (0 : ℝ) < 2 ^ (970 : Int) := by positivity
  have hnear : Nearest ((2 ^ 54 - 1) * 2 ^ (970 : Int) / 2 ^ (971 : Int)) (2 ^ 53) := by
    rw [two_zpow_top, mul_div_mul_right _ _ hpos.ne']
    refine ⟨?_, fun _ => ⟨2 ^ 52, by norm_num⟩⟩
    norm_num [abs_le]
  rw [← magnitude_overflow]
  exact .on grid_limit hnear

theorem Rounds.lt_of_lt_limit {r : ℝ} (h : Rounds a r) (ha : a < (2 ^ 54 - 1) * 2 ^ (970 : Int)) :
    r < 2 ^ (1024 : Int) := by
  obtain @⟨e, k, hgrid, hnear⟩ := h
  have hpos : (0 : ℝ) < 2 ^ (970 : Int) := by positivity
  rcases (hgrid.le grid_limit ha.le).lt_or_eq with he | rfl
  · have hk : (k : ℝ) ≤ 2 ^ (53 : Int) := by exact_mod_cast hnear.le_of_grid hgrid
    calc magnitude k e ≤ 2 ^ (53 : Int) * 2 ^ (970 : Int) :=
          mul_le_mul hk (zpow_le_zpow_right₀ one_le_two (by omega)) (by positivity) (by positivity)
      _ = 2 ^ (1023 : Int) := by rw [← zpow_add₀ two_ne_zero]; rfl
      _ < 2 ^ (1024 : Int) := zpow_lt_zpow_right₀ one_lt_two (by norm_num)
  · have hless : a / 2 ^ (971 : Int) < (2 ^ 54 - 1) / 2 := by
      rw [two_zpow_top, div_lt_iff₀ (by positivity)]
      linarith
    have hk : (k : ℝ) < 2 ^ 53 := by
      have hclose := (abs_le.1 hnear.close).2
      linarith
    rw [← magnitude_overflow]
    unfold magnitude
    exact mul_lt_mul_of_pos_right (by exact_mod_cast hk) (by positivity)

theorem Approximates.ne_top {v : EReal} (h : Approximates a v)
    (ha : a < (2 ^ 54 - 1) * 2 ^ (970 : Int)) : v ≠ ⊤ := by
  obtain @⟨s, r, q, rfl, hr, hq⟩ := h
  cases s with
  | negative =>
      have hq0 : bounded .positive 0 ≤ bounded .positive q := bounded_positive_mono hq.nonneg
      rw [bounded_zero, ← EReal.neg_le_zero, ← bounded_negative_eq] at hq0
      exact ne_top_of_le_ne_top EReal.zero_ne_top hq0
  | positive =>
      rw [bounded, if_pos (hq.lt_of_lt_limit ha)]
      exact EReal.coe_ne_top _

theorem ofInt?_eq_none_iff (n : Nat) : ofInt? n = none ↔ 2 ^ 1024 - 2 ^ 970 ≤ n := by
  have hn := approximates_natCast n
  rw [ofInt?_natCast, ite_eq_right_iff]
  constructor
  · intro h
    by_contra hlt
    have hless : (n : ℝ) < (2 ^ 54 - 1) * 2 ^ (970 : Int) := by
      rw [← limit_eq]
      exact_mod_cast not_le.1 hlt
    have hlow := approximates_nought.mono hn n.cast_nonneg
    have hbot := ne_bot_of_le_ne_bot (EReal.coe_ne_bot 0) hlow
    cases h (isFinite_of_value (EReal.coe_toReal (hn.ne_top hless) hbot).symm)
  · intro h hfinite
    have hlimit := Approximates.mk (s := .positive) rfl (by positivity) rounds_limit
    rw [bounded, if_neg (lt_irrefl _)] at hlimit
    have hle : ((2 : ℝ) ^ 54 - 1) * 2 ^ (970 : Int) ≤ n := by
      rw [← limit_eq]
      exact_mod_cast h
    obtain ⟨r, hr⟩ := value_of_isFinite hfinite
    have htop := hlimit.mono hn hle
    rw [hr] at htop
    exact absurd htop (not_le.2 (EReal.coe_lt_top r))

end Switchboard.Number
