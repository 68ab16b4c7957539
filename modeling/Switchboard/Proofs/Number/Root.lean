import Switchboard.Proofs.Number.Sum

namespace Switchboard.Number

open Float.Model Float.Model.UnpackedFloat

/-- How far the root lies beyond its whole part is read off the remainder; it never is half. -/
theorem holds_sqrt (m : Nat) :
    Holds (ExtendedMantissa.ofMantissaAndAccuracy m.sqrt
      (if m - m.sqrt * m.sqrt = 0 then .exact
        else .inexact (if m - m.sqrt * m.sqrt ≤ m.sqrt then .lt else .gt))) (√(m : ℝ)) := by
  have hlow := Nat.sqrt_le m
  have hhigh := Nat.lt_succ_sqrt m
  generalize m.sqrt = r at *
  have hr : (0 : ℝ) ≤ r := r.cast_nonneg
  split
  · next hrest =>
      have hsquare : (m : ℝ) = r * r := by exact_mod_cast (by omega : m = r * r)
      rw [hsquare, Real.sqrt_mul_self hr]
      exact .natCast r
  · next hrest =>
      split
      · next hsmall =>
          have hm : (r * r : ℝ) + 1 ≤ m := by exact_mod_cast (by omega : r * r + 1 ≤ m)
          have hm' : (m : ℝ) ≤ r * r + r := by exact_mod_cast (by omega : m ≤ r * r + r)
          have hleast : (r : ℝ) < √m := Real.lt_sqrt_of_sq_lt (by nlinarith)
          have hbelow : √(m : ℝ) < r + 1 / 2 := (Real.sqrt_lt' (by positivity)).2 (by nlinarith)
          refine ⟨?_, ?_, ?_⟩ <;> simp [ExtendedMantissa.ofMantissaAndAccuracy, kept] <;> linarith
      · next hlarge =>
          have hm : (r * r : ℝ) + r + 1 ≤ m := by exact_mod_cast (by omega : r * r + r + 1 ≤ m)
          have hm' : (m : ℝ) < (r + 1) * (r + 1) := by exact_mod_cast hhigh
          have hleast : (r : ℝ) + 1 / 2 < √m := Real.lt_sqrt_of_sq_lt (by nlinarith)
          have hbelow : √(m : ℝ) < r + 1 := (Real.sqrt_lt' (by positivity)).2 (by nlinarith)
          refine ⟨?_, ?_, ?_⟩ <;> simp [ExtendedMantissa.ofMantissaAndAccuracy, kept] <;> linarith

theorem full_sqrt {m : Nat} (h : 104 ≤ m.log2) (hm : m ≠ 0) : 2 ^ 52 ≤ m.sqrt := by
  rw [Nat.le_sqrt, ← pow_add]
  exact (Nat.pow_le_pow_right two_pos h).trans (Nat.log2_self_le hm)

theorem approximates_sqrt {m : Nat} {e : Int} (hm : 0 < m) :
    Approximates √(magnitude m e)
      (worth (repacked (UnpackedFloat.sqrt Format.binary64 (.finite .positive m e hm)))) := by
  have hT : Format.binary64.targetExponent ((totalExponent m e + 1).ediv 2) =
      max ((m.log2 + e + 2).ediv 2 - 53) (-1074) := by
    have htotal : totalExponent m e + 1 = m.log2 + e + 2 := by
      unfold totalExponent
      omega
    rw [htotal, Format.targetExponent]
    norm_num [Format.mantissaBits, Format.minExponent]
  change Approximates _ (worth (repacked (roundWithAccuracy Format.binary64 .positive _ _ _)))
  rw [hT]
  generalize hmin : min (e.ediv 2) (max ((m.log2 + e + 2).ediv 2 - 53) (-1074)) = T
  have he : e.ediv 2 = e / 2 := rfl
  have he' : ((m.log2 : Int) + e + 2).ediv 2 = (m.log2 + e + 2) / 2 := rfl
  rw [he, he'] at hmin
  generalize hj : (e - 2 * T).toNat = j
  have hexponent : e = j + (T + T) := by omega
  have hpos : (0 : ℝ) < 2 ^ T := by positivity
  have hscaled : √(magnitude m e) = √((m <<< j : Nat) : ℝ) * 2 ^ T := by
    have hsquare : magnitude m e = (m <<< j : Nat) * (2 ^ T * 2 ^ T) := by
      rw [magnitude, hexponent, zpow_add₀ two_ne_zero, zpow_add₀ two_ne_zero, zpow_natCast,
        Nat.shiftLeft_eq]
      push_cast
      ring
    rw [hsquare, Real.sqrt_mul (Nat.cast_nonneg _), Real.sqrt_mul_self hpos.le]
  have hfull : 2 ^ 52 ≤ (m <<< j).sqrt ∨ T ≤ -1074 := by
    by_cases hleast : T ≤ -1074
    · exact .inr hleast
    · have hlog : 104 ≤ (m <<< j).log2 := by
        rw [log2_shiftLeft hm]
        omega
      exact .inl (full_sqrt hlog (by rw [Nat.shiftLeft_eq]; positivity))
  have hlow : ((m <<< j).sqrt : ℝ) ≤ √((m <<< j : Nat) : ℝ) := Real.nat_sqrt_le_real_sqrt
  have hhigh : √((m <<< j : Nat) : ℝ) < (m <<< j).sqrt + 1 := Real.real_sqrt_lt_nat_sqrt_succ
  have hgrid := grid_of_wholePart (e := T) hlow hhigh (hfull.imp_left (by omega))
  rw [hscaled]
  exact approximates_of_roundsTo (s := .positive) (by positivity)
    (roundsTo_of_holds .positive (holds_sqrt _) hgrid (le_target hfull))

theorem value_sqrt (x : Float) :
    value x.sqrt = worth (repacked (UnpackedFloat.sqrt Format.binary64 x.toModel.unpack)) := rfl

variable {x : Float} {a : ℝ}

theorem approximates_sqrt_of_value (hx : value x = a) (ha : 0 ≤ a) :
    Approximates √a (value x.sqrt) := by
  have hm := measures_of_value hx
  rw [value_sqrt]
  generalize x.toModel.unpack = u at hm
  cases hm with
  | zero s =>
      rw [Real.sqrt_zero]
      exact approximates_zero s
  | @finite s m e hm hc =>
      cases s with
      | negative => exact absurd ha (not_le.2 (neg_neg_of_pos (magnitude_pos hm e)))
      | positive => exact approximates_sqrt hm

theorem least_le_sqrt (hx : value x = a) (ha : 0 < a) : (2 : ℝ) ^ (-1074 : Int) ≤ √a := by
  obtain ⟨k, rfl⟩ := exists_least_of_value hx
  have hpos : (0 : ℝ) < 2 ^ (-1074 : Int) := by positivity
  have hless : (2 : ℝ) ^ (-1074 : Int) ≤ 1 := zpow_le_one_of_nonpos₀ one_le_two (by norm_num)
  have hk : (1 : ℝ) ≤ k := by
    have hk : 0 < k := by exact_mod_cast (mul_pos_iff_of_pos_right hpos).1 ha
    exact_mod_cast hk
  exact Real.le_sqrt_of_sq_le (by nlinarith)

theorem value_sqrt_of_top (hx : value x = ⊤) : value x.sqrt = ⊤ := by
  rw [value_sqrt, unpack_of_value_top hx]
  rfl

end Switchboard.Number
