import Switchboard.Proofs.Number.Conversion

namespace Switchboard.Number

open Float.Model Float.Model.UnpackedFloat

theorem holds_fraction (m : Nat) {n : Nat} (hn : 0 < n) :
    Holds (ExtendedMantissa.ofMantissaAndAccuracy (m / n) (accuracyOfFraction (m % n) n))
      (m / n) := by
  have hpos : (0 : ℝ) < n := by exact_mod_cast hn
  have hsum : (m : ℝ) / n = (m / n : Nat) + (m % n : Nat) / n := by
    rw [div_eq_iff hpos.ne', add_mul, div_mul_cancel₀ _ hpos.ne', mul_comm]
    exact_mod_cast (Nat.div_add_mod m n).symm
  have hrest : ((m % n : Nat) : ℝ) / n < 1 := by
    rw [div_lt_one hpos]
    exact_mod_cast Nat.mod_lt m hn
  rw [hsum]
  generalize m / n = q
  generalize m % n = r at *
  unfold accuracyOfFraction
  split
  · next h0 =>
      subst h0
      rw [Nat.cast_zero, zero_div, add_zero]
      exact .natCast q
  · next h0 =>
      have hr : (0 : ℝ) < r / n := div_pos (by exact_mod_cast Nat.pos_of_ne_zero h0) hpos
      rcases lt_trichotomy (2 * r) n with h | h | h
      · have hhalf : (r : ℝ) / n < 1 / 2 := by
          rw [div_lt_div_iff₀ hpos two_pos]
          exact_mod_cast (by omega : r * 2 < 1 * n)
        rw [compare_lt_iff_lt.2 h]
        refine ⟨?_, ?_, ?_⟩ <;> simp [ExtendedMantissa.ofMantissaAndAccuracy, kept] <;> linarith
      · have hhalf : (r : ℝ) / n = 1 / 2 := by
          rw [div_eq_div_iff hpos.ne' two_ne_zero]
          exact_mod_cast (by omega : r * 2 = 1 * n)
        rw [compare_eq_iff_eq.2 h, hhalf]
        refine ⟨?_, ?_, ?_⟩ <;> simp [ExtendedMantissa.ofMantissaAndAccuracy, kept]
      · have hhalf : (1 : ℝ) / 2 < r / n := by
          rw [div_lt_div_iff₀ two_pos hpos]
          exact_mod_cast (by omega : 1 * n < r * 2)
        rw [compare_gt_iff_gt.2 h]
        refine ⟨?_, ?_, ?_⟩ <;> simp [ExtendedMantissa.ofMantissaAndAccuracy, kept] <;> linarith

theorem le_target {q : Nat} {e : Int} (h : 2 ^ 52 ≤ q ∨ e ≤ -1074) : e ≤ target q e := by
  unfold target
  rcases h with hfull | hleast
  · have hlog : 52 ≤ q.log2 := (Nat.le_log2 (by omega)).2 hfull
    omega
  · omega

theorem full_quotient {m n : Nat} (hm : 0 < m) (hn : 0 < n) {j : Nat}
    (h : n.log2 + 53 ≤ m.log2 + j) : 2 ^ 52 ≤ (m <<< j) / n := by
  rw [Nat.le_div_iff_mul_le hn, Nat.shiftLeft_eq]
  calc 2 ^ 52 * n ≤ 2 ^ 52 * 2 ^ (n.log2 + 1) := Nat.mul_le_mul_left _ Nat.lt_log2_self.le
    _ = 2 ^ (n.log2 + 53) := by rw [← pow_add]; congr 1; omega
    _ ≤ 2 ^ (m.log2 + j) := Nat.pow_le_pow_right two_pos h
    _ = 2 ^ m.log2 * 2 ^ j := pow_add _ _ _
    _ ≤ m * 2 ^ j := Nat.mul_le_mul_right _ (Nat.log2_self_le hm.ne')

theorem signed_div (s t : Sign) (x y : ℝ) : signed s x / signed t y = signed (s / t) (x / y) := by
  cases s <;> cases t
  · exact neg_div_neg_eq x y
  · exact neg_div y x
  · exact div_neg x
  · rfl

theorem approximates_div {u v : UnpackedFloat} {a : ℝ} {t : Sign} {n : Nat} {k : Int} {hn : 0 < n}
    (hu : Measures u a) (hv : v = .finite t n k hn) :
    Approximates (a / signed t (magnitude n k))
      (worth (repacked (UnpackedFloat.div Format.binary64 u v))) := by
  subst hv
  cases hu with
  | zero s =>
      rw [zero_div]
      exact approximates_zero (s / t)
  | @finite s m e hm h =>
      have hT : Format.binary64.targetExponent (totalExponent m e - totalExponent n k) =
          max (m.log2 + e - (n.log2 + k) - 53) (-1074) := by
        unfold Format.targetExponent totalExponent
        norm_num [Format.mantissaBits, Format.minExponent]
        omega
      change Approximates _ (worth (repacked (roundWithAccuracy Format.binary64 (s / t) _ _ _)))
      rw [hT]
      generalize hmin : min (e - k) (max (m.log2 + e - (n.log2 + k) - 53 : Int) (-1074)) = T
      generalize hj : (e - k - T).toNat = j
      have hpos : (0 : ℝ) < n := by exact_mod_cast hn
      have hdiv : (m <<< j : Nat) / n * n ≤ m <<< j := Nat.div_mul_le_self _ _
      have hlt : m <<< j < ((m <<< j) / n + 1) * n := by
        rw [mul_comm]
        exact Nat.lt_mul_div_succ _ hn
      have hlow : (((m <<< j) / n : Nat) : ℝ) ≤ (m <<< j : Nat) / n := by
        rw [le_div_iff₀ hpos]
        exact_mod_cast hdiv
      have hhigh : ((m <<< j : Nat) : ℝ) / n < ((m <<< j) / n : Nat) + 1 := by
        rw [div_lt_iff₀ hpos]
        exact_mod_cast hlt
      have hfull : 2 ^ 52 ≤ (m <<< j) / n ∨ T ≤ -1074 := by
        by_cases hleast : T ≤ -1074
        · exact .inr hleast
        · exact .inl (full_quotient hm hn (by omega))
      have hgrid := grid_of_wholePart hlow hhigh (hfull.imp_left (by omega))
      have hexact : magnitude m e / magnitude n k = (m <<< j : Nat) / n * 2 ^ T := by
        have hT : e = k + (j + T) := by omega
        unfold magnitude
        rw [hT, zpow_add₀ two_ne_zero, zpow_add₀ two_ne_zero, zpow_natCast, Nat.shiftLeft_eq]
        push_cast
        field_simp
      rw [signed_div, hexact]
      exact approximates_of_roundsTo (by positivity)
        (roundsTo_of_holds _ (holds_fraction _ hn) hgrid (le_target hfull))

theorem value_div (x y : Float) :
    value (x / y) =
      worth (repacked (UnpackedFloat.div Format.binary64 x.toModel.unpack y.toModel.unpack)) := rfl

end Switchboard.Number
