import Switchboard.Proofs.Number.Arithmetic

namespace Switchboard.Number

variable {x r v : ℝ} {m : Nat}

theorem magnitude_sub (n : Nat) (e : Int) (x : ℝ) :
    magnitude n e - x = (n - x / 2 ^ e) * 2 ^ e := by
  rw [magnitude, sub_mul, div_mul_cancel₀ _ (by positivity)]

theorem Rounds.close (h : Rounds x r) (hx : 1 ≤ x) : |r - x| ≤ x / 2 ^ 53 := by
  obtain @⟨e, n, hgrid, hnear⟩ := h
  have hpos : (0 : ℝ) < 2 ^ e := by positivity
  have hfull : 2 ^ (e + 52) ≤ x := by
    rcases hgrid.full with hfull | rfl
    · exact hfull
    · exact (zpow_le_one_of_nonpos₀ one_le_two (by norm_num)).trans hx
  rw [magnitude_sub, abs_mul, abs_of_pos hpos]
  have hhalf := mul_le_mul_of_nonneg_right hnear.close hpos.le
  rw [zpow_add₀ two_ne_zero] at hfull
  norm_num at hfull hhalf ⊢
  linarith

theorem Approximates.close (h : Approximates x (v : EReal)) (hx : 1 ≤ x) :
    |v - x| ≤ x / 2 ^ 53 := by
  generalize hw : (v : EReal) = w at h
  obtain @⟨s, y, r, rfl, hy, hr⟩ := h
  cases s with
  | negative =>
      have : (1 : ℝ) ≤ -y := hx
      linarith
  | positive =>
      rw [bounded] at hw
      split at hw
      · rw [EReal.coe_eq_coe_iff.1 hw]
        exact hr.close hx
      · exact absurd hw (EReal.coe_ne_top v)

theorem approximates_natCast_of_close (hx : 1 ≤ x) (hx' : x < 2 ^ 53)
    (h : |m - x| ≤ x / 2 ^ 54) : Approximates x ((m : ℝ) : EReal) := by
  obtain ⟨k, hk, hk'⟩ := exists_mem_Ico_zpow (zero_lt_one.trans_le hx) one_lt_two
  have hk0 : 0 < k + 1 := (one_lt_zpow_iff_right₀ one_lt_two).1 (hx.trans_lt hk')
  have hk52 : k < 53 :=
    (zpow_lt_zpow_iff_right₀ (one_lt_two (α := ℝ))).1 (hk.trans_lt (by exact_mod_cast hx'))
  obtain ⟨j, hj⟩ := Int.eq_ofNat_of_zero_le (by omega : 0 ≤ 52 - k)
  have hpos : (0 : ℝ) < 2 ^ (k - 52) := by positivity
  have hunit : (2 : ℝ) ^ j * 2 ^ (k - 52) = 1 := by
    rw [← zpow_natCast, ← zpow_add₀ two_ne_zero, show (j : Int) + (k - 52) = 0 by omega, zpow_zero]
  have hgrid : Grid x (k - 52) := by
    refine ⟨by omega, ?_, .inl ?_⟩
    · rwa [show k - 52 + 53 = k + 1 by omega]
    · rwa [sub_add_cancel]
  have hsame : magnitude (m * 2 ^ j) (k - 52) = m := by
    rw [magnitude, Nat.cast_mul, Nat.cast_pow, Nat.cast_ofNat, mul_assoc, hunit, mul_one]
  have hclose : |((m * 2 ^ j : Nat) : ℝ) - x / 2 ^ (k - 52)| < 1 / 2 := by
    have hbelow := hgrid.below
    rw [zpow_add₀ two_ne_zero] at hbelow
    rw [← hsame, magnitude_sub, abs_mul, abs_of_pos hpos] at h
    refine lt_of_mul_lt_mul_right (h.trans_lt ?_) hpos.le
    norm_num at hbelow ⊢
    linarith
  have hround := Rounds.on hgrid ⟨hclose.le, fun htie => absurd htie hclose.ne⟩
  have hsmall : (m : ℝ) < 2 ^ (1024 : Int) := by
    have hle : (m : ℝ) < 2 ^ 54 := by linarith [(abs_le.1 h).2]
    exact hle.trans (by exact_mod_cast pow_lt_pow_right₀ one_lt_two (by norm_num : 54 < 1024))
  rw [hsame] at hround
  have happrox := Approximates.mk (s := .positive) rfl (zero_le_one.trans hx) hround
  rwa [bounded, if_pos hsmall] at happrox

end Switchboard.Number
