import Mathlib
import Switchboard.Number.Binary

namespace Switchboard.Number

open Float.Model Float.Model.UnpackedFloat

noncomputable def magnitude (m : Nat) (e : Int) : ℝ := m * 2 ^ e

noncomputable def signed (s : Sign) (x : ℝ) : ℝ :=
  match s with
  | .negative => -x
  | .positive => x

noncomputable def unbounded : Sign → EReal
  | .negative => ⊥
  | .positive => ⊤

noncomputable def bounded (s : Sign) (x : ℝ) : EReal :=
  if x < 2 ^ (1024 : Int) then (signed s x : ℝ) else unbounded s

/-- What is no number counts as the least of all. -/
noncomputable def worth : UnpackedFloat → EReal
  | .notANumber => ⊥
  | .infinity s => unbounded s
  | .zero _ => 0
  | .finite s m e _ => (signed s (magnitude m e) : ℝ)

noncomputable def value (x : Float) : EReal := worth x.toModel.unpack

noncomputable def kept (em : ExtendedMantissa) : ℝ := em.mantissa + em.roundBit.toNat / 2

noncomputable def Binary.real (b : Binary) : ℝ := b.signed * 2 ^ b.exponent

structure Canonical (m : Nat) (e : Int) : Prop where
  below : m < 2 ^ 53
  least : -1074 ≤ e
  full : 2 ^ 52 ≤ m ∨ e = -1074

theorem toNat_one_append (m : BitVec 52) : (1#1 ++ m).toNat = 2 ^ 52 + m.toNat := by
  rw [BitVec.toNat_append, ← Nat.shiftLeft_add_eq_or_of_lt m.isLt]
  rfl

theorem canonical_of_unpack {x : Float.Model} {s : Sign} {m : Nat} {e : Int} {h : 0 < m}
    (hu : x.unpack = .finite s m e h) : Canonical m e ∧ e ≤ 971 := by
  unfold Float.Model.unpack UnpackedFloat.unpack at hu
  have hm := (@unpackMantissa .binary64 x.toBits.toBitVec).isLt
  have he := (@unpackExponent .binary64 x.toBits.toBitVec).isLt
  dsimp only at hu
  split at hu
  · split at hu <;> cases hu
  · next hinf =>
      split at hu
      · next hsub =>
          split at hu
          · cases hu
          · cases hu
            simp only [hsub, BitVec.toNat_ofNat] at *
            norm_num [Format.exponentBias] at *
            exact ⟨by omega, by omega, Or.inr rfl⟩
      · next hnorm =>
          cases hu
          have h0 : (@unpackExponent .binary64 x.toBits.toBitVec).toNat ≠ 0 :=
            fun h0 => hnorm (BitVec.eq_of_toNat_eq h0)
          have h1 : (@unpackExponent .binary64 x.toBits.toBitVec).toNat ≠ 2047 :=
            fun h1 => hinf (BitVec.eq_of_toNat_eq h1)
          rw [toNat_one_append]
          norm_num [Format.exponentBias] at *
          exact ⟨⟨by omega, by omega, Or.inl (by omega)⟩, by omega⟩

theorem magnitude_pos {m : Nat} (hm : 0 < m) (e : Int) : 0 < magnitude m e := by
  unfold magnitude
  positivity

theorem zpow_mul_two_le {e k : Int} (h : e < k) : (2 : ℝ) ^ e * 2 ≤ 2 ^ k := by
  rw [← zpow_add_one₀ two_ne_zero]
  exact zpow_le_zpow_right₀ one_le_two h

theorem magnitude_lt_magnitude {m n : Nat} {e k : Int} (hm : Canonical m e) (hn : Canonical n k)
    (h : e < k) : magnitude m e < magnitude n k := by
  have hfull : (2 : ℝ) ^ 52 ≤ n := by
    have hk : 2 ^ 52 ≤ n := by
      rcases hn.full with hf | hf
      · exact hf
      · have := hm.least
        omega
    exact_mod_cast hk
  have hbelow : (m : ℝ) < 2 ^ 53 := by exact_mod_cast hm.below
  have hstep := zpow_mul_two_le h
  have hpos : (0 : ℝ) < 2 ^ e := by positivity
  unfold magnitude
  nlinarith

theorem compares_magnitude {m n : Nat} {e k : Int} (hm : Canonical m e) (hn : Canonical n k) :
    ((compare e k).then (compare m n)).Compares (magnitude m e) (magnitude n k) := by
  rcases lt_trichotomy e k with h | h | h
  · rw [compare_lt_iff_lt.2 h]
    exact magnitude_lt_magnitude hm hn h
  · subst h
    have hpos : (0 : ℝ) < 2 ^ e := by positivity
    rw [compare_eq_iff_eq.2 rfl]
    unfold magnitude
    rcases lt_trichotomy m n with h | h | h
    · rw [compare_lt_iff_lt.2 h]
      exact mul_lt_mul_of_pos_right (by exact_mod_cast h) hpos
    · rw [compare_eq_iff_eq.2 h, h]
      rfl
    · rw [compare_gt_iff_gt.2 h]
      exact mul_lt_mul_of_pos_right (by exact_mod_cast h) hpos
  · rw [compare_gt_iff_gt.2 h]
    exact magnitude_lt_magnitude hn hm h

structure Proper (u : UnpackedFloat) : Prop where
  number : u ≠ .notANumber
  canonical : ∀ s m e h, u = .finite s m e h → Canonical m e

theorem compares_worth {u v : UnpackedFloat} (hu : Proper u) (hv : Proper v) :
    ∃ o, u.compare v = some o ∧ o.Compares (worth u) (worth v) := by
  cases u with
  | notANumber => exact absurd rfl hu.number
  | infinity s =>
      cases v with
      | notANumber => exact absurd rfl hv.number
      | infinity t =>
          refine ⟨compare s t, rfl, ?_⟩
          cases s <;> cases t
          · exact rfl
          · exact bot_lt_top
          · exact bot_lt_top
          · exact rfl
      | zero t => cases s <;> exact ⟨_, rfl, by simp [worth, unbounded]⟩
      | finite t n k hn => cases s <;> exact ⟨_, rfl, by simp [worth, unbounded]⟩
  | zero s =>
      cases v with
      | notANumber => exact absurd rfl hv.number
      | infinity t => cases t <;> exact ⟨_, rfl, by simp [worth, unbounded]⟩
      | zero t => exact ⟨_, rfl, rfl⟩
      | finite t n k hn =>
          have := magnitude_pos hn k
          cases t <;> exact ⟨_, rfl, by simpa [worth, signed] using this⟩
  | finite s m e hm =>
      cases v with
      | notANumber => exact absurd rfl hv.number
      | infinity t => cases s <;> cases t <;> exact ⟨_, rfl, by simp [worth, unbounded]⟩
      | zero t =>
          have := magnitude_pos hm e
          cases s <;> exact ⟨_, rfl, by simpa [worth, signed] using this⟩
      | finite t n k hn =>
          have hc := compares_magnitude (hu.canonical s m e hm rfl) (hv.canonical t n k hn rfl)
          have hm := magnitude_pos hm e
          have hn := magnitude_pos hn k
          cases s <;> cases t
          · refine ⟨_, rfl, EReal.coe_strictMono.compares.2 ?_⟩
            have hneg : StrictAnti (Neg.neg : ℝ → ℝ) := fun _ _ h => neg_lt_neg h
            exact Ordering.compares_swap.2 (hneg.compares.2 hc)
          · refine ⟨.lt, rfl, EReal.coe_strictMono.compares.2 ?_⟩
            exact (neg_neg_of_pos hm).trans hn
          · refine ⟨.gt, rfl, EReal.coe_strictMono.compares.2 ?_⟩
            exact (neg_neg_of_pos hn).trans hm
          · exact ⟨_, rfl, EReal.coe_strictMono.compares.2 hc⟩

theorem exponent_bits (b : UInt64) :
    ((b >>> 52) &&& 0x7FF).toNat = (@unpackExponent .binary64 b.toBitVec).toNat := by
  have h := Nat.and_two_pow_sub_one_eq_mod (b.toNat >>> 52) 11
  norm_num at h
  simpa [unpackExponent] using h

theorem mantissa_bits (b : UInt64) :
    (b &&& 0xFFFFFFFFFFFFF).toNat = (@unpackMantissa .binary64 b.toBitVec).toNat := by
  have h := Nat.and_two_pow_sub_one_eq_mod b.toNat 52
  norm_num at h
  simpa [unpackMantissa] using h

theorem sign_bit (b : UInt64) :
    (b >>> 63 == 1) =
      (Sign.ofBitVec (@unpackSign .binary64 b.toBitVec) == .negative) := by
  have h : (b >>> 63).toNat = (@unpackSign .binary64 b.toBitVec).toNat := by
    have := b.toNat_lt
    simp [unpackSign]
    omega
  rcases BitVec.eq_zero_or_eq_one (@unpackSign .binary64 b.toBitVec) with hs | hs
  · rw [hs] at h ⊢
    have hb : b >>> 63 = 0 := UInt64.toNat_inj.1 h
    rw [hb]
    rfl
  · rw [hs] at h ⊢
    have hb : b >>> 63 = 1 := UInt64.toNat_inj.1 h
    rw [hb]
    rfl

theorem ofFloat?_eq (x : Float) :
    Binary.ofFloat? x = match x.toModel.unpack with
      | .finite s m e _ => some ⟨s == .negative, m, e⟩
      | .zero s => some ⟨s == .negative, 0, -1074⟩
      | _ => none := by
  have he := exponent_bits x.toModel.toBits
  have hm := mantissa_bits x.toModel.toBits
  have hs := sign_bit x.toModel.toBits
  unfold Binary.ofFloat? isFinite Float.toBits Float.Model.unpack UnpackedFloat.unpack
  dsimp only
  rw [hs]
  by_cases hinf : @unpackExponent .binary64 x.toModel.toBits.toBitVec = -1#11
  · have hall : (x.toModel.toBits >>> 52) &&& 0x7FF = 0x7FF := UInt64.toNat_inj.1 (by rw [he, hinf]; rfl)
    rw [if_pos hinf, if_neg (by simp [hall])]
    split_ifs <;> rfl
  · have hall : (x.toModel.toBits >>> 52) &&& 0x7FF ≠ 0x7FF := by
      intro hall
      refine hinf (BitVec.eq_of_toNat_eq ?_)
      rw [← he, hall]
      rfl
    rw [if_neg hinf, if_pos (by simpa using hall), he, hm]
    by_cases hsub : @unpackExponent .binary64 x.toModel.toBits.toBitVec = 0#11
    · have h0 : (@unpackExponent .binary64 x.toModel.toBits.toBitVec).toNat = 0 := by
        rw [hsub]; rfl
      simp only [if_pos hsub, if_pos h0]
      by_cases hz : @unpackMantissa .binary64 x.toModel.toBits.toBitVec = 0#52
      · rw [dif_pos hz, hz]
        rfl
      · rw [dif_neg hz]
        simp [h0, Format.exponentBias]
    · have h0 : (@unpackExponent .binary64 x.toModel.toBits.toBitVec).toNat ≠ 0 :=
        fun h0 => hsub (BitVec.eq_of_toNat_eq h0)
      simp only [if_neg hsub, if_neg h0, toNat_one_append]
      simp [Format.exponentBias, power]

def IsNumber (x : Float) : Prop := x.toModel.unpack ≠ .notANumber

theorem IsNumber.proper {x : Float} (h : IsNumber x) : Proper x.toModel.unpack where
  number := h
  canonical _ _ _ _ hu := (canonical_of_unpack hu).1

theorem compare_eq_none_of_not_isNumber {x : Float} (h : ¬ IsNumber x) (u : UnpackedFloat) :
    x.toModel.unpack.compare u = none ∧ u.compare x.toModel.unpack = none := by
  rw [not_not.1 h]
  cases u with
  | notANumber => exact ⟨rfl, rfl⟩
  | infinity s => cases s <;> exact ⟨rfl, rfl⟩
  | zero s => exact ⟨rfl, rfl⟩
  | finite s m e hm => exact ⟨rfl, rfl⟩

theorem lt_iff (x y : Float) : x < y ↔ IsNumber x ∧ IsNumber y ∧ value x < value y := by
  have hlt : x < y ↔ x.toModel.unpack.compare y.toModel.unpack = some .lt := by
    exact decide_eq_true_iff.trans beq_iff_eq
  rw [hlt]
  by_cases hx : IsNumber x
  · by_cases hy : IsNumber y
    · obtain ⟨o, ho, hc⟩ := compares_worth hx.proper hy.proper
      rw [ho, Option.some.injEq, hc.eq_lt]
      simp [hx, hy, value]
    · simp [(compare_eq_none_of_not_isNumber hy _).2, hy]
  · simp [(compare_eq_none_of_not_isNumber hx _).1, hx]

theorem le_iff (x y : Float) : x ≤ y ↔ IsNumber x ∧ IsNumber y ∧ value x ≤ value y := by
  have hle : x ≤ y ↔ (x.toModel.unpack.compare y.toModel.unpack).any (·.isLE) = true := by
    exact decide_eq_true_iff
  rw [hle]
  by_cases hx : IsNumber x
  · by_cases hy : IsNumber y
    · obtain ⟨o, ho, hc⟩ := compares_worth hx.proper hy.proper
      have hle : o.isLE = true ↔ o ≠ .gt := by cases o <;> simp
      rw [ho, Option.any_some, hle, hc.ne_gt]
      simp [hx, hy, value]
    · simp [(compare_eq_none_of_not_isNumber hy _).2, hy]
  · simp [(compare_eq_none_of_not_isNumber hx _).1, hx]

theorem zpow_eq_power_div (e : Int) : (2 : ℝ) ^ e = (power 2 e : ℝ) / power 2 (-e) := by
  unfold power
  rcases Int.le_total 0 e with h | h
  · obtain ⟨n, rfl⟩ := Int.eq_ofNat_of_zero_le h
    simp
  · obtain ⟨n, hn⟩ := Int.eq_ofNat_of_zero_le (Int.neg_nonneg_of_nonpos h)
    obtain rfl : e = -n := by omega
    simp

theorem compareInt_ne_lt_iff (b : Binary) (n : Int) :
    (b.compareInt n != .lt) = true ↔ (n : ℝ) ≤ b.signed * 2 ^ b.exponent := by
  have hpos : (0 : ℝ) < power 2 (-b.exponent) := by
    unfold power
    exact_mod_cast Nat.two_pow_pos _
  have hcast : (b.compareInt n != .lt) = true ↔
      n * (power 2 (-b.exponent) : Int) ≤ b.signed * (power 2 b.exponent : Int) := by
    simp [Binary.compareInt, compare_lt_iff_lt]
  rw [hcast, zpow_eq_power_div, ← mul_div_assoc, le_div_iff₀ hpos]
  exact_mod_cast Iff.rfl

theorem leFloat_iff (n : Int) (x : Float) :
    leFloat n x = true ↔ ((n : ℝ) : EReal) ≤ value x := by
  have hzero : (0.0 : Float).toModel.unpack = .zero .positive := by rfl
  unfold leFloat
  rw [ofFloat?_eq]
  cases hu : x.toModel.unpack with
  | notANumber =>
      simp [lt_iff, IsNumber, value, hu, worth]
  | infinity s =>
      cases s <;> simp [lt_iff, IsNumber, value, hu, worth, unbounded, hzero]
  | zero s =>
      dsimp only
      rw [compareInt_ne_lt_iff]
      simp [value, hu, worth, Binary.signed]
  | finite s m e hm =>
      dsimp only
      rw [compareInt_ne_lt_iff, value, hu, worth, EReal.coe_le_coe_iff]
      cases s with
      | negative =>
          rw [show (Sign.negative == Sign.negative) = true from rfl]
          simp [Binary.signed, signed, magnitude]
      | positive =>
          rw [show (Sign.positive == Sign.negative) = false from rfl]
          simp [Binary.signed, signed, magnitude]

end Switchboard.Number
