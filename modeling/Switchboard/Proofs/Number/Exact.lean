import Switchboard.Number.Basic
import Switchboard.Proofs.Number.Division

namespace Switchboard.Number

open Float.Model Float.Model.UnpackedFloat

section Sub

variable {s : Sign} {u v : UnpackedFloat} {a b : ℝ} {m : Nat} {e : Int}

theorem repacked_finite_ne (s : Sign) (h : Canonical m e) (hm : 0 < m) :
    repacked (.finite s m e hm) ≠ .notANumber := by
  rw [repacked_finite s h hm]
  split <;> simp

theorem RoundsTo.repacked_ne {x : ℝ} (h : RoundsTo s x u) : repacked u ≠ .notANumber := by
  cases h with
  | zero h => simp [repacked_zero]
  | finite h hc => exact repacked_finite_ne s hc _

theorem repacked_normalize_ne (z : Int) (e : Int) (s : Sign) :
    repacked (UnpackedFloat.normalize Format.binary64 z e s) ≠ .notANumber := by
  unfold UnpackedFloat.normalize
  rcases lt_trichotomy z 0 with h | rfl | h
  · rw [compare_lt_iff_lt.2 h]
    exact (roundsTo_round .negative (by omega) e).repacked_ne
  · simp [repacked_zero]
  · rw [compare_gt_iff_gt.2 h]
    exact (roundsTo_round .positive (by omega) e).repacked_ne

theorem repacked_sub_ne (hu : Measures u a) (hv : Measures v b) :
    repacked (UnpackedFloat.sub Format.binary64 u v) ≠ .notANumber := by
  cases hu with
  | zero s =>
      cases hv with
      | zero t =>
          unfold UnpackedFloat.sub
          dsimp only
          split <;> simp [repacked_zero]
      | @finite t n k hn hb => exact repacked_finite_ne (-t) hb hn
  | @finite s m e hm ha =>
      cases hv with
      | zero t => exact repacked_finite_ne s ha hm
      | finite hn hb => exact repacked_normalize_ne _ _ _

end Sub

theorem measures_of_value {x : Float} {r : ℝ} (h : value x = r) : Measures x.toModel.unpack r := by
  rw [value] at h
  rcases unpack_cases x with hx | ⟨s, hx⟩ | ⟨a, hx⟩
  · rw [hx] at h
    exact absurd h.symm (EReal.coe_ne_bot r)
  · rw [hx] at h
    cases s with
    | negative => exact absurd h.symm (EReal.coe_ne_bot r)
    | positive => exact absurd h.symm (EReal.coe_ne_top r)
  · rw [hx.worth_eq, EReal.coe_eq_coe_iff] at h
    exact h ▸ hx

variable {x y : Float} {a b : ℝ}

theorem value_of_isFinite (h : isFinite x = true) : ∃ r : ℝ, value x = r := by
  obtain ⟨b, hb⟩ : ∃ b, Binary.ofFloat? x = some b := by
    rw [Binary.ofFloat?, if_pos h]
    exact ⟨_, rfl⟩
  exact ⟨b.real, value_of_ofFloat? hb⟩

theorem value_zero : value 0.0 = (0 : ℝ) := by rfl

theorem isNumber_of_ne_bot (h : value x ≠ ⊥) : IsNumber x := by
  intro hx
  exact h (by rw [value, hx]; rfl)

theorem beq_zero_iff (hx : IsNumber x) : (x == 0.0) = true ↔ value x = (0 : ℝ) := by
  have h0 : IsNumber 0.0 := isNumber_of_ne_bot (value_zero ▸ EReal.coe_ne_bot 0)
  obtain ⟨o, ho, hc⟩ := compares_worth hx.proper h0.proper
  have hbeq : (x == 0.0) = (x.toModel.unpack.compare (0.0 : Float).toModel.unpack == some .eq) := by
    rfl
  rw [hbeq, ho, ← value_zero, beq_iff_eq, Option.some.injEq, hc.eq_eq]
  rfl

theorem approximates_sub_of_value (hx : value x = a) (hy : value y = b) :
    Approximates (a - b) (value (x - y)) := by
  rw [value_sub]
  exact approximates_sub (measures_of_value hx) (measures_of_value hy)

theorem isNumber_sub (hx : value x = a) (hy : value y = b) : IsNumber (x - y) :=
  repacked_sub_ne (measures_of_value hx) (measures_of_value hy)

theorem magnitude_thousand : signed .positive (magnitude 8796093022208000 (-43)) = 1000 := by
  norm_num [signed, magnitude]

theorem approximates_mul_of_value (hx : value x = a) (hy : value y = b) :
    Approximates (a * b) (value (x * y)) := by
  rw [value_mul]
  exact approximates_mul (measures_of_value hx) (measures_of_value hy)

theorem value_thousand : value 1000.0 = (1000 : ℝ) := by
  rw [value, unpack_thousand, worth, magnitude_thousand]

theorem approximates_mul_thousand (hx : value x = a) :
    Approximates (a * 1000) (value (x * 1000.0)) :=
  approximates_mul_of_value hx value_thousand

theorem approximates_div_of_value (hx : value x = a) (hy : value y = b) (hb : b ≠ 0) :
    Approximates (a / b) (value (x / y)) := by
  have hm := measures_of_value hy
  rw [value_div]
  generalize y.toModel.unpack = v at hm
  cases hm with
  | zero t => exact absurd rfl hb
  | finite hn hc => exact approximates_div (measures_of_value hx) rfl

theorem approximates_div_thousand (hx : value x = a) :
    Approximates (a / 1000) (value (x / 1000.0)) :=
  approximates_div_of_value hx value_thousand (by norm_num)

theorem Approximates.unique {v w : EReal} (hv : Approximates a v) (hw : Approximates a w) : v = w :=
  le_antisymm (hv.mono hw le_rfl) (hw.mono hv le_rfl)

theorem rounds_of_short {n : Nat} (hn : n < 2 ^ 53) {e : Int} (he : -1074 ≤ e) :
    Rounds (magnitude n e) (magnitude n e) := by
  rcases Nat.eq_zero_or_pos n with rfl | hpos
  · have hzero : magnitude 0 e = 0 := by simp [magnitude]
    rw [hzero]
    exact rounds_zero
  · have hlog : n.log2 < 53 := (Nat.log2_lt hpos.ne').2 hn
    have htarget : target n e ≤ e := by
      unfold target
      omega
    obtain ⟨k, hk⟩ := Int.eq_ofNat_of_zero_le (Int.sub_nonneg_of_le htarget)
    have hsplit : e = target n e + k := by omega
    have hscaled : magnitude n e / 2 ^ target n e = (n * 2 ^ k : Nat) := by
      rw [magnitude, mul_div_assoc, ← zpow_sub₀ two_ne_zero, hk, zpow_natCast]
      push_cast
      rfl
    have hsame : magnitude (n * 2 ^ k) (target n e) = magnitude n e := by
      have hpos : (0 : ℝ) < 2 ^ target n e := by positivity
      rw [magnitude, ← hscaled, div_mul_cancel₀ _ hpos.ne']
    have h := Rounds.on (grid_target hpos e) (hscaled ▸ Nearest.natCast (n * 2 ^ k))
    rwa [hsame] at h

theorem approximates_of_short {z : Int} (hz : z.natAbs < 2 ^ 53) {e : Int} (he : -1074 ≤ e)
    (he' : e ≤ 971) : Approximates (z * 2 ^ e) ((z * 2 ^ e : ℝ) : EReal) := by
  have hsmall : magnitude z.natAbs e < 2 ^ (1024 : Int) := by
    have hn : (z.natAbs : ℝ) < 2 ^ (53 : Int) := by exact_mod_cast hz
    have hpos : (0 : ℝ) < 2 ^ e := by positivity
    calc magnitude z.natAbs e < 2 ^ (53 : Int) * 2 ^ e := mul_lt_mul_of_pos_right hn hpos
      _ = 2 ^ (53 + e) := by rw [zpow_add₀ two_ne_zero]
      _ ≤ 2 ^ (1024 : Int) := zpow_le_zpow_right₀ one_le_two (by omega)
  have hround := rounds_of_short hz he
  have hsigned : (z * 2 ^ e : ℝ) = signed (signOf (z < 0)) (magnitude z.natAbs e) := by
    rcases lt_or_ge z 0 with h | h
    · have habs : (z.natAbs : ℝ) = -z := by
        rw [Nat.cast_natAbs, abs_of_neg h, Int.cast_neg]
      simp [signOf, h, signed, magnitude, habs]
    · have habs : (z.natAbs : ℝ) = z := by rw [Nat.cast_natAbs, abs_of_nonneg h]
      simp [signOf, not_lt.2 h, signed, magnitude, habs]
  have h := Approximates.mk hsigned hround.nonneg hround
  rwa [bounded, if_pos hsmall, ← hsigned] at h

theorem value_toFloat_of_short {z : Int} (hz : z.natAbs < 2 ^ 53) {e : Int} (he : -1074 ≤ e)
    (he' : e ≤ 971) : value (Binary.toFloat ⟨z < 0, z.natAbs, e⟩) = (z * 2 ^ e : ℝ) := by
  have h := approximates_toFloat ⟨z < 0, z.natAbs, e⟩
  have hreal : Binary.real ⟨z < 0, z.natAbs, e⟩ = z * 2 ^ e := by
    unfold Binary.real Binary.signed
    rcases lt_or_ge z 0 with h | h
    · have habs : (-(z.natAbs : Int)) = z := by omega
      simp only [decide_eq_true h, if_true, habs]
    · have habs : (z.natAbs : Int) = z := by omega
      simp only [decide_eq_false (not_lt.2 h), Bool.false_eq_true, if_false, habs]
  rw [hreal] at h
  exact h.unique (approximates_of_short hz he he')

theorem ofInt?_of_short {z : Int} (hz : z.natAbs < 2 ^ 53) :
    ∃ x, ofInt? z = some x ∧ value x = (z : ℝ) := by
  have hvalue := value_toFloat_of_short (e := 0) hz (by omega) (by omega)
  rw [zpow_zero, mul_one] at hvalue
  exact ⟨_, if_pos (isFinite_of_value hvalue), hvalue⟩

theorem value_toUInt64_toFloat {n : Nat} (hn : n < 2 ^ 53) :
    value n.toUInt64.toFloat = (n : ℝ) := by
  have hword : n.toUInt64.toNat = n := Nat.mod_eq_of_lt (by omega)
  have hvalue : value n.toUInt64.toFloat =
      worth (repacked (UnpackedFloat.normalize Format.binary64 n.toUInt64.toNat 0 .positive)) := rfl
  have hshort := approximates_of_short (z := n) (e := 0) (by omega) (by omega) (by omega)
  have hround := approximates_normalize n 0 .positive
  rw [zpow_zero, mul_one] at hshort hround
  rw [hvalue, hword]
  exact hround.unique hshort

theorem value_one : value 1.0 = (1 : ℝ) := by
  have hunpack : (1.0 : Float).toModel.unpack = .finite .positive (2 ^ 52) (-52) (by norm_num) := by
    rfl
  rw [value, hunpack, worth]
  norm_num [signed, magnitude]

theorem ofScientific_zero {n : Nat} (hn : n ≠ 0) :
    UnpackedFloat.ofScientific Format.binary64 n 0 =
      roundWithAccuracy Format.binary64 .positive (n <<< 53) (-53) .exact := by
  have hbits : Format.binary64.mantissaBits = 53 := rfl
  have hmul (m k : Nat) (hm : 0 < m) (hk : 0 < k) :
      UnpackedFloat.mul Format.binary64 (.finite .positive m (-53) hm) (.finite .positive k 0 hk) =
        roundWithAccuracy Format.binary64 .positive (m * k) (-53) .exact := rfl
  unfold UnpackedFloat.ofScientific
  rw [dif_neg hn, if_neg (by norm_num), if_neg (by norm_num), if_pos le_rfl]
  simp only [hbits, Nat.cast_ofNat, hmul, Int.toNat_zero, pow_zero, mul_one]

theorem approximates_ofScientific {n : Nat} (hn : n ≠ 0) :
    Approximates n (worth (repacked (UnpackedFloat.ofScientific Format.binary64 n 0))) := by
  have hpos : 0 < n <<< 53 := by
    rw [Nat.shiftLeft_eq]
    positivity
  have hexact : magnitude (n <<< 53) (-53) = n := by
    rw [magnitude, Nat.shiftLeft_eq, zpow_neg, Nat.cast_mul, Nat.cast_pow, mul_assoc]
    norm_num
  have htarget : -53 ≤ target (n <<< 53) (-53) := by
    unfold target
    rw [log2_shiftLeft (Nat.pos_of_ne_zero hn)]
    omega
  have h := approximates_of_roundsTo (magnitude_pos hpos (-53)).le
    (roundsTo_roundWithAccuracy .positive hpos htarget)
  rw [← ofScientific_zero hn, signed, hexact] at h
  exact h

theorem approximates_ofNat (n : Nat) : Approximates n (value (Float.ofNat n)) := by
  have hofNat : Float.ofNat n = Float.ofScientific n false 0 := rfl
  rw [hofNat, Float.ofScientific]
  split
  · next h =>
      have hmul := approximates_mul_of_value (value_toUInt64_toFloat h.1) value_one
      rw [mul_one] at hmul
      exact hmul
  · next h =>
      exact approximates_ofScientific (by omega)

theorem quarters_eq (z : Int) : (z / 4 : ℝ) = z * 2 ^ (-2 : Int) := by
  rw [div_eq_mul_inv]
  norm_num

theorem approximates_quarters {z : Int} (hz : z.natAbs < 2 ^ 53) :
    Approximates (z / 4) ((z / 4 : ℝ) : EReal) := by
  rw [quarters_eq]
  exact approximates_of_short hz (by omega) (by omega)

theorem le_mul_thousand {z : Int} (hz : (250 * z).natAbs < 2 ^ 53)
    (h : ((z / 4 : ℝ) : EReal) ≤ value x) : ((250 * z : ℝ) : EReal) ≤ value (x * 1000.0) := by
  have hvalue := value_toFloat_of_short (z := z) (e := -2) (by omega) (by omega) (by omega)
  rw [← quarters_eq] at hvalue
  have hexact := approximates_of_short (e := 0) hz (by omega) (by omega)
  rw [zpow_zero, mul_one] at hexact
  push_cast at hexact
  calc ((250 * z : ℝ) : EReal)
      ≤ value (Binary.toFloat ⟨z < 0, z.natAbs, -2⟩ * 1000.0) :=
        hexact.mono (approximates_mul_thousand hvalue) (by linarith)
    _ ≤ value (x * 1000.0) := value_mul_le unpack_thousand (hvalue ▸ h)

theorem Binary.abs_round_sub_le (b : Binary) : |(b.round : ℝ) - b.real| ≤ 1 / 2 := by
  have hden : 0 < power 2 (-b.exponent) := Nat.two_pow_pos _
  have hnear := (nearest_roundDiv (b.mantissa * power 2 b.exponent) hden).close
  have hmagnitude : ((b.mantissa * power 2 b.exponent : Nat) : ℝ) / power 2 (-b.exponent) =
      b.mantissa * 2 ^ b.exponent := by
    rw [zpow_eq_power_div]
    push_cast
    ring
  rw [hmagnitude] at hnear
  unfold Binary.round Binary.real Binary.signed
  cases b.negative with
  | false => simpa using hnear
  | true =>
      rw [abs_sub_comm] at hnear
      simp only [if_true]
      push_cast
      rwa [neg_mul, neg_sub_neg]

theorem round?_close {k : Int} (h : (Number.real x).round? = some k) :
    ∃ r : ℝ, value x = r ∧ |(k : ℝ) - r| ≤ 1 / 2 := by
  obtain ⟨b, hb, rfl⟩ := Option.map_eq_some_iff.1 h
  exact ⟨b.real, value_of_ofFloat? hb, b.abs_round_sub_le⟩

theorem exists_round? (h : isFinite x = true) : ∃ k, (Number.real x).round? = some k := by
  obtain ⟨r, hr⟩ := value_of_isFinite h
  obtain ⟨b, hb, -⟩ := exists_ofFloat? hr
  exact ⟨b.round, by rw [round?, hb, Option.map_some]⟩

end Switchboard.Number
