import Switchboard.Proofs.Number.Threshold

namespace Switchboard.Number

open Float.Model Float.Model.UnpackedFloat

/-- With two bits or more below the last kept one, whatever lies between two neighbours rounds as
their middle does. -/
theorem holds_between {q : Nat} {x : ℝ} (hlow : q < x) (hhigh : x < q + 1) :
    Holds ⟨q / 2, q % 2 != 0, true⟩ (x / 2) := by
  have hbit : (q % 2 != 0).toNat = q % 2 := by
    rcases Nat.mod_two_eq_zero_or_one q with h | h <;> rw [h] <;> rfl
  have hsplit : (q : ℝ) = 2 * (q / 2 : Nat) + (q % 2 : Nat) := by
    exact_mod_cast (Nat.div_add_mod q 2).symm
  have hkept : kept ⟨q / 2, q % 2 != 0, true⟩ = q / 2 := by
    simp only [kept, hbit]
    linarith
  refine ⟨?_, ?_, iff_of_true rfl ?_⟩ <;> rw [hkept] <;> linarith

theorem exists_rounds_between {q : Nat} (hq : 2 ^ 53 ≤ q) (e : Int) :
    ∃ r, ∀ x : ℝ, q < x → x < q + 1 → Rounds (x * 2 ^ e) r := by
  have hlog : 53 ≤ q.log2 := (Nat.le_log2 (by omega)).2 hq
  have htarget : e + 1 ≤ target q e := by
    unfold target
    omega
  obtain ⟨j, hj⟩ := Int.eq_ofNat_of_zero_le (Int.sub_nonneg_of_le htarget)
  refine ⟨_, fun x hlow hhigh => .on
    (grid_of_wholePart hlow.le hhigh (.inl (by omega)))
    (n := ((⟨q / 2, q % 2 != 0, true⟩ : ExtendedMantissa) >>> j).roundedMantissa) ?_⟩
  have hscaled : x * 2 ^ e / 2 ^ target q e = x / 2 / 2 ^ j := by
    rw [show target q e = e + (1 + j) by omega, zpow_add₀ two_ne_zero, zpow_add₀ two_ne_zero,
      zpow_one, zpow_natCast]
    field_simp
  rw [hscaled]
  exact ((holds_between hlow hhigh).shiftRight j).nearest

theorem Approximates.of_between {q : Nat} (hq : 2 ^ 53 ≤ q) {e : Int} (s : Sign) {x y : ℝ}
    (hx : q < x) (hx' : x < q + 1) (hy : q < y) (hy' : y < q + 1) {v : EReal}
    (h : Approximates (signed s (x * 2 ^ e)) v) : Approximates (signed s (y * 2 ^ e)) v := by
  obtain ⟨r, hr⟩ := exists_rounds_between hq e
  have hq0 : (0 : ℝ) ≤ q := q.cast_nonneg
  have hx0 : 0 ≤ x * 2 ^ e := mul_nonneg (by linarith) (by positivity)
  have hy0 : 0 ≤ y * 2 ^ e := mul_nonneg (by linarith) (by positivity)
  rw [h.unique (.mk rfl hx0 (hr x hx hx'))]
  exact .mk rfl hy0 (hr y hy hy')

theorem int_div_eq_signed (num : Int) (den : Nat) :
    (num : ℝ) / den = signed (signOf (num < 0)) (num.natAbs / den) := by
  rcases lt_or_ge num 0 with h | h
  · have habs : (num.natAbs : ℝ) = -num := by
      rw [Nat.cast_natAbs, abs_of_neg h, Int.cast_neg]
    simp [signOf, h, signed, habs, neg_div]
  · have habs : (num.natAbs : ℝ) = num := by rw [Nat.cast_natAbs, abs_of_nonneg h]
    simp [signOf, not_lt.2 h, signed, habs]

theorem le_scaled_div {m den : Nat} (hm : m ≠ 0) (hden : 0 < den) :
    2 ^ 55 ≤ m * 2 ^ (den.log2 + 56 - m.log2) / den := by
  rw [Nat.le_div_iff_mul_le hden]
  calc 2 ^ 55 * den ≤ 2 ^ 55 * 2 ^ (den.log2 + 1) := Nat.mul_le_mul_left _ Nat.lt_log2_self.le
    _ = 2 ^ (den.log2 + 56) := by rw [← pow_add]; congr 1; omega
    _ ≤ 2 ^ (m.log2 + (den.log2 + 56 - m.log2)) := Nat.pow_le_pow_right two_pos (by omega)
    _ = 2 ^ m.log2 * 2 ^ (den.log2 + 56 - m.log2) := pow_add _ _ _
    _ ≤ m * 2 ^ (den.log2 + 56 - m.log2) := Nat.mul_le_mul_right _ (Nat.log2_self_le hm)

theorem between_of_mod_ne_zero {n den : Nat} (h : n % den ≠ 0) (hden : 0 < den) :
    ((n / den : Nat) : ℝ) < n / den ∧ (n : ℝ) / den < (n / den : Nat) + 1 := by
  have hpos : (0 : ℝ) < den := by exact_mod_cast hden
  have hparts := Nat.div_add_mod n den
  have hless := Nat.mod_lt n hden
  constructor
  · rw [lt_div_iff₀ hpos, mul_comm]
    exact_mod_cast (by omega : den * (n / den) < n)
  · rw [div_lt_iff₀ hpos, add_mul, mul_comm, one_mul]
    exact_mod_cast (by omega : n < den * (n / den) + den)

theorem magnitude_double (q k : Nat) : magnitude (2 * q) (-k - 1) = q * 2 ^ (-k : Int) := by
  rw [magnitude, zpow_sub_one₀ two_ne_zero]
  push_cast
  ring

theorem magnitude_double_succ (q k : Nat) :
    magnitude (2 * q + 1) (-k - 1) = (q + 1 / 2) * 2 ^ (-k : Int) := by
  rw [magnitude, zpow_sub_one₀ two_ne_zero]
  push_cast
  ring

theorem approximates_ofRatio (num : Int) {den : Nat} (hden : 0 < den) :
    Approximates (num / den) (value (ofRatio num den)) := by
  have hpower (k : Nat) : power 2 (k : Int) = 2 ^ k := rfl
  unfold ofRatio
  dsimp only
  rw [hpower, int_div_eq_signed]
  generalize hm : num.natAbs = m
  generalize hk : den.log2 + 56 - m.log2 = k
  have hscaled : (m : ℝ) / den = (m * 2 ^ k : Nat) / den * 2 ^ (-k : Int) := by
    rw [zpow_neg, zpow_natCast]
    push_cast
    field_simp
  rw [hscaled]
  split
  · next hexact =>
      have hdvd := Nat.dvd_of_mod_eq_zero hexact
      have hne : (den : ℝ) ≠ 0 := by exact_mod_cast hden.ne'
      rw [← Nat.cast_div hdvd hne, ← magnitude_double]
      have h := approximates_toFloat ⟨num < 0, 2 * (m * 2 ^ k / den), -k - 1⟩
      rwa [Binary.real_eq] at h
  · next hrest =>
      have hm0 : m ≠ 0 := by
        rintro rfl
        exact hrest (by rw [zero_mul, Nat.zero_mod])
      have hfull : 2 ^ 55 ≤ m * 2 ^ k / den := hk ▸ le_scaled_div hm0 hden
      obtain ⟨hlow, hhigh⟩ := between_of_mod_ne_zero hrest hden
      have h := approximates_toFloat ⟨num < 0, 2 * (m * 2 ^ k / den) + 1, -k - 1⟩
      rw [Binary.real_eq, magnitude_double_succ] at h
      exact h.of_between (by omega) _ (by linarith) (by linarith) hlow hhigh

theorem Binary.floor_eq (b : Binary) : b.floor = ⌊b.real⌋ := by
  have hpos : (0 : ℝ) < power 2 (-b.exponent) := by
    unfold power
    exact_mod_cast Nat.two_pow_pos _
  have hreal : b.real = ((b.signed * power 2 b.exponent : Int) : ℝ) / power 2 (-b.exponent) := by
    rw [Binary.real, zpow_eq_power_div]
    push_cast
    ring
  rw [hreal, Int.floor_div_natCast, Int.floor_intCast, Binary.floor,
    Int.fdiv_eq_ediv_of_nonneg _ (Int.natCast_nonneg _)]

theorem Binary.toNat_trunc (b : Binary) : b.trunc.toNat = ⌊b.real⌋₊ := by
  have hden : (0 : Int) < power 2 (-b.exponent) := by exact_mod_cast Nat.two_pow_pos _
  rw [← Int.floor_toNat, ← b.floor_eq, trunc, floor]
  rcases Int.le_total 0 (b.signed * power 2 b.exponent) with h | h
  · rw [Int.fdiv_eq_tdiv_of_nonneg h hden.le]
  -- below zero the two part, but neither is above it
  · have htrunc := Int.tdiv_nonneg (Int.neg_nonneg_of_nonpos h) hden.le
    have hfloor := Int.ediv_nonpos_of_nonpos_of_neg h hden
    rw [Int.neg_tdiv] at htrunc
    rw [← Int.fdiv_eq_ediv_of_nonneg _ hden.le] at hfloor
    rw [Int.toNat_of_nonpos hfloor, Int.toNat_of_nonpos (by omega)]

theorem thousandth_of_value {z : Float} {r : ℝ} (h : value z = r) :
    ∃ y, thousandth z = .ok y ∧ Approximates (⌊r⌋ / 1000) (value y) := by
  obtain ⟨b, hb, rfl⟩ := exists_ofFloat? h
  have happrox := approximates_ofRatio b.floor (by norm_num : 0 < 1000)
  rw [b.floor_eq] at happrox
  refine ⟨ofRatio b.floor 1000, by rw [thousandth, hb], ?_⟩
  rw [b.floor_eq]
  exact_mod_cast happrox

theorem ofFloat?_of_top {z : Float} (h : value z = ⊤) : Binary.ofFloat? z = none := by
  cases hb : Binary.ofFloat? z with
  | none => rfl
  | some b => exact absurd (h.symm.trans (value_of_ofFloat? hb)) (EReal.coe_ne_top b.real).symm

theorem thousandth_of_top {z : Float} (h : value z = ⊤) : ∃ e, thousandth z = .error e :=
  ⟨_, by rw [thousandth, ofFloat?_of_top h]⟩

end Switchboard.Number
