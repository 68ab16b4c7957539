import Switchboard.Ledger
import Switchboard.Proofs.Number.Bounds
import Switchboard.Proofs.Number.Error
import Switchboard.Proofs.Number.Ratio

namespace Switchboard.Ledger

open Number

theorem value_ninetyFive : value 0.95 = (8556839292003942 / 2 ^ 53 : ℝ) := by
  have hunpack : (0.95 : Float).toModel.unpack =
      .finite .positive 8556839292003942 (-53) (by norm_num) := by
    rfl
  rw [value, hunpack, worth]
  norm_num [signed, magnitude]

section Share

variable {n q : Nat}

theorem value_share_of_whole (hn : n ≤ 2 ^ 49) (hq : n * 19 = 20 * q) :
    value (Float.ofNat n * 0.95) = (q : ℝ) := by
  have hvalue := approximates_mul_of_value (value_ofNat (j := n) (by omega)) value_ninetyFive
  rcases Nat.eq_zero_or_pos n with rfl | hpos
  · obtain rfl : q = 0 := by omega
    rw [Nat.cast_zero, zero_mul] at hvalue
    exact_mod_cast hvalue.unique approximates_nought
  · have hmost : (n : ℝ) ≤ 2 ^ 49 := by exact_mod_cast hn
    have hleast : (20 : ℝ) ≤ n := by exact_mod_cast (by omega : 20 ≤ n)
    have hparts : (n : ℝ) * 19 = 20 * q := by exact_mod_cast hq
    refine hvalue.unique (approximates_natCast_of_close (by linarith) (by linarith) ?_)
    rw [abs_le]
    constructor <;> linarith

theorem exists_gap (hn : n ≤ 2 ^ 49) (hq : 20 * q ≤ n * 19) (hless : n * 19 < 20 * (q + 1)) :
    ∃ gap : ℝ, 0 < gap ∧ Exact (q - gap) ∧ Exact (q + 1 - gap) ∧
      (n : ℝ) * (8556839292003942 / 2 ^ 53) ≤ q + 1 - gap := by
  have hmost : (n : ℝ) ≤ 2 ^ 49 := by exact_mod_cast hn
  have hparts : (n : ℝ) * 19 + 1 ≤ 20 * (q + 1) := by exact_mod_cast hless
  have hroom {k : Nat} (hk : k ≤ 971) (hwide : (q + 1) * 2 ^ k ≤ 2 ^ 53) :
      Exact (q - (2 ^ k)⁻¹) ∧ Exact (q + 1 - (2 ^ k)⁻¹) := by
    have hnext := exact_natCast_sub_inv_pow hk hwide
    rw [Nat.cast_add_one] at hnext
    exact ⟨exact_natCast_sub_inv_pow hk ((Nat.mul_le_mul_right _ q.le_succ).trans hwide), hnext⟩
  -- above `2 ^ 48` the doubles are farther apart, but so is the product from the next number
  rcases Nat.le_total n (2 ^ 48) with hsmall | hlarge
  · obtain ⟨hexact, hexact'⟩ := hroom (k := 5) (by norm_num) (by omega)
    exact ⟨_, by positivity, hexact, hexact', by norm_num; linarith⟩
  · have hlarge : (2 : ℝ) ^ 48 ≤ n := by exact_mod_cast hlarge
    obtain ⟨hexact, hexact'⟩ := hroom (k := 4) (by norm_num) (by omega)
    exact ⟨_, by positivity, hexact, hexact', by norm_num; linarith⟩

theorem exists_share (hn : n ≤ 2 ^ 49) (hq : 20 * q ≤ n * 19) (hless : n * 19 < 20 * (q + 1)) :
    ∃ a hi : ℝ, value (Float.ofNat n * 0.95) = a ∧ Exact (hi - 1) ∧ q ≤ a ∧ a ≤ hi ∧
      hi < q + 1 := by
  have hexact : Exact q := by simpa using exact_intCast (q := q) (by omega)
  rcases hq.eq_or_lt with hwhole | hpart
  · refine ⟨q, q, value_share_of_whole hn hwhole.symm, ?_, le_rfl, le_rfl, lt_add_one _⟩
    simpa using exact_intCast (q := q - 1) (by omega)
  · obtain ⟨gap, hgap, hbelow, hnext, hhigh⟩ := exists_gap hn hq hless
    have hlow : (q : ℝ) ≤ n * (8556839292003942 / 2 ^ 53) := by
      have hmost : (n : ℝ) ≤ 2 ^ 49 := by exact_mod_cast hn
      have hparts : (20 : ℝ) * q + 1 ≤ n * 19 := by exact_mod_cast hpart
      linarith
    have hvalue := approximates_mul_of_value (value_ofNat (j := n) (by omega)) value_ninetyFive
    obtain ⟨a, ha, hlow, hhigh⟩ := exists_value_between hvalue hexact hnext hlow hhigh
    refine ⟨a, _, ha, ?_, hlow, hhigh, by linarith⟩
    rwa [add_sub_right_comm, add_sub_cancel_right]

end Share

theorem p95Index_of_value {n : Nat} {v : ℝ} (h : value (Float.ofNat n * 0.95 - 1.0) = v) :
    p95Index n = ⌊v⌋₊ := by
  obtain ⟨b, hb, rfl⟩ := exists_ofFloat? h
  rw [p95Index, hb]
  exact b.toNat_trunc

theorem p95Index_eq {n : Nat} (hn : n ≤ 2 ^ 49) : p95Index n = n * 95 / 100 - 1 := by
  generalize hq : n * 95 / 100 = q
  obtain ⟨a, hi, ha, hexact, hlow, hhigh, hless⟩ :=
    exists_share (q := q) hn (by omega) (by omega)
  have hleast : Exact ((q : ℝ) - 1) := by simpa using exact_intCast (q := q - 1) (by omega)
  obtain ⟨v, hv, hlow, hhigh⟩ := exists_value_between (approximates_sub_of_value ha value_one)
    hleast hexact (by linarith) (by linarith)
  rw [p95Index_of_value hv]
  rcases Nat.eq_zero_or_pos q with rfl | hpos
  · exact Nat.floor_of_nonpos (by push_cast at hless; linarith)
  · have hpred : ((q - 1 : Nat) : ℝ) = q - 1 := by rw [Nat.cast_pred hpos]
    rw [Nat.floor_eq_iff (by rw [← hpred] at hlow; exact (Nat.cast_nonneg _).trans hlow), hpred]
    constructor <;> linarith

theorem p95Index_of_top {n : Nat} (h : value (Float.ofNat n * 0.95 - 1.0) = ⊤) :
    p95Index n = 0 := by
  rw [p95Index, ofFloat?_of_top h]

theorem value_top {x : Float} (h : value x = ⊤) : value (x * 0.95 - 1.0) = ⊤ := by
  have hmul : value (x * 0.95) = ⊤ := by
    rw [value_mul, unpack_of_value_top h]
    rfl
  rw [value_sub, unpack_of_value_top hmul]
  rfl

theorem p95Index_lt {n : Nat} (h : 0 < n) : p95Index n < n := by
  rcases Nat.le_total n (2 ^ 49) with hless | hmore
  · rw [p95Index_eq hless]
    omega
  · have hmore : (2 : ℝ) ^ 49 ≤ n := by exact_mod_cast hmore
    rcases top_or_real (zero_le_iff.1 (Marks.ofNat n).nonneg) with htop | ⟨a, -, ha⟩
    · rwa [p95Index_of_top (value_top htop)]
    -- each of the three roundings adds one part in `2 ^ 53` at most, and a twentieth is taken off
    · have hcount := abs_le.1 ((ha ▸ approximates_ofNat n).close (by linarith))
      have hshare := approximates_mul_of_value ha value_ninetyFive
      obtain ⟨b, hb, -, -⟩ := exists_value_between hshare approximates_nought
        (exact_of_value ha) (by linarith) (by linarith)
      have hbound := abs_le.1 ((hb ▸ hshare).close (by linarith))
      have hplace := approximates_sub_of_value hb value_one
      obtain ⟨v, hv, hv0, -⟩ := exists_value_between hplace approximates_nought
        (exact_of_value hb) (by linarith) (by linarith)
      have hbound' := abs_le.1 ((hv ▸ hplace).close (by linarith))
      rw [p95Index_of_value hv, Nat.floor_lt hv0]
      linarith

end Switchboard.Ledger
