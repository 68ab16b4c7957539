import Switchboard.Proofs.Number.Arithmetic

namespace Switchboard.Number

open Float.Model Float.Model.UnpackedFloat

theorem nearest_quotient (q : Nat) {r den : Nat} (hr : r < den) :
    Nearest (q + r / den) (if den < 2 * r ∨ 2 * r = den ∧ q % 2 = 1 then q + 1 else q) := by
  have hden : (0 : ℝ) < den := by exact_mod_cast Nat.zero_lt_of_lt hr
  have hpart : (0 : ℝ) ≤ r / den := by positivity
  have hless : (r : ℝ) / den < 1 := (div_lt_one hden).2 (by exact_mod_cast hr)
  have hhalf (hrel : (r : ℝ) / den = 1 / 2) : 2 * r = den := by
    rw [div_eq_iff hden.ne'] at hrel
    have : (2 * r : ℝ) = den := by linarith
    exact_mod_cast this
  split
  · next hup =>
      have hbig : 1 / 2 ≤ (r : ℝ) / den := by
        rw [le_div_iff₀ hden]
        have : (den : ℝ) ≤ 2 * r := by exact_mod_cast hup.elim Nat.le_of_lt fun h => h.1.ge
        linarith
      have habs : |((q + 1 : Nat) : ℝ) - (q + r / den)| = 1 - r / den := by
        rw [abs_of_nonneg (by push_cast; linarith)]
        push_cast
        ring
      refine ⟨by rw [habs]; linarith, fun htie => ?_⟩
      have htwo := hhalf (by linarith)
      have hodd : q % 2 = 1 := hup.elim (fun h => absurd h (by omega)) fun h => h.2
      exact Nat.even_iff.2 (by omega)
  · next hdown =>
      have hsmall : (r : ℝ) / den ≤ 1 / 2 := by
        rw [div_le_iff₀ hden]
        have : (2 * r : ℝ) ≤ den := by exact_mod_cast Nat.not_lt.1 fun h => hdown (.inl h)
        linarith
      have habs : |(q : ℝ) - (q + r / den)| = r / den := by
        rw [abs_sub_comm, abs_of_nonneg (by linarith)]
        ring
      refine ⟨by rw [habs]; exact hsmall, fun htie => ?_⟩
      have htwo := hhalf (by rw [← habs]; exact htie)
      have heven : q % 2 ≠ 1 := fun h => hdown (.inr ⟨htwo, h⟩)
      exact Nat.even_iff.2 (by omega)

theorem nearest_roundDiv (num : Nat) {den : Nat} (hd : 0 < den) :
    Nearest ((num : ℝ) / den) (roundDiv num den) := by
  have hparts : (num : ℝ) / den = (num / den : Nat) + (num % den : Nat) / den := by
    have hsum : (num : ℝ) = den * (num / den : Nat) + (num % den : Nat) := by
      exact_mod_cast (Nat.div_add_mod num den).symm
    have hne : (den : ℝ) ≠ 0 := by exact_mod_cast hd.ne'
    rw [div_eq_iff hne, add_mul, div_mul_cancel₀ _ hne, mul_comm]
    exact hsum
  have hround : roundDiv num den =
      if den < 2 * (num % den) ∨ 2 * (num % den) = den ∧ num / den % 2 = 1 then num / den + 1
      else num / den := by
    unfold roundDiv
    dsimp only
    generalize num / den = q
    rcases lt_trichotomy (2 * (num % den)) den with h | h | h
    · rw [compare_lt_iff_lt.2 h]
      change q = _
      rw [if_neg (by omega)]
    · rw [compare_eq_iff_eq.2 h]
      change (if q % 2 = 0 then q else q + 1) = _
      rcases Nat.mod_two_eq_zero_or_one q with hq | hq
      · rw [if_pos hq, if_neg (by omega)]
      · rw [if_neg (by omega), if_pos (.inr ⟨h, hq⟩)]
    · rw [compare_gt_iff_gt.2 h]
      change q + 1 = _
      rw [if_pos (.inl h)]
  rw [hparts, hround]
  exact nearest_quotient _ (Nat.mod_lt _ hd)

def signBits : Sign → Nat
  | .negative => 2 ^ 63
  | .positive => 0

theorem toNat_packComponents (s : Sign) (x : BitVec 11) (m : BitVec 52) :
    (packComponents Format.binary64 s x m).toNat = x.toNat * 2 ^ 52 + m.toNat + signBits s := by
  change (s.toBitVec ++ x ++ m : BitVec (1 + 11 + 52)).toNat = _
  rw [BitVec.toNat_append, BitVec.toNat_append, ← Nat.shiftLeft_add_eq_or_of_lt m.isLt,
    ← Nat.shiftLeft_add_eq_or_of_lt x.isLt, Nat.shiftLeft_eq, Nat.shiftLeft_eq]
  cases s with
  | negative =>
      change (1 * 2 ^ 11 + x.toNat) * 2 ^ 52 + m.toNat = x.toNat * 2 ^ 52 + m.toNat + 2 ^ 63
      omega
  | positive =>
      change (0 * 2 ^ 11 + x.toNat) * 2 ^ 52 + m.toNat = x.toNat * 2 ^ 52 + m.toNat + 0
      omega

theorem value_ofBits (s : Sign) {n k m : Nat} (hk : k < 2 ^ 11) (hm : m < 2 ^ 52)
    (hn : n = k * 2 ^ 52 + m) :
    value (Float.ofBits (UInt64.ofNat (n + signBits s))) =
      worth (repacked (UnpackedFloat.unpack Format.binary64
        (packComponents Format.binary64 s (BitVec.ofNat 11 k) (BitVec.ofNat 52 m)))) := by
  have hk' : (BitVec.ofNat 11 k).toNat = k := Nat.mod_eq_of_lt hk
  have hm' : (BitVec.ofNat 52 m).toNat = m := Nat.mod_eq_of_lt hm
  have hvec : (UInt64.ofNat (n + signBits s)).toBitVec =
      packComponents Format.binary64 s (BitVec.ofNat 11 k) (BitVec.ofNat 52 m) := by
    have hbits : n + signBits s =
        (packComponents Format.binary64 s (BitVec.ofNat 11 k) (BitVec.ofNat 52 m)).toNat := by
      rw [toNat_packComponents, hk', hm', hn]
    rw [hbits]
    exact BitVec.eq_of_toNat_eq (Nat.mod_eq_of_lt (BitVec.isLt _))
  rw [← hvec]
  rfl

theorem unpack_infinity (s : Sign) :
    UnpackedFloat.unpack Format.binary64
      (packComponents Format.binary64 s (BitVec.ofNat 11 2047) (BitVec.ofNat 52 0)) =
      .infinity s := by
  cases s <;> rfl

theorem unpack_zero (s : Sign) :
    UnpackedFloat.unpack Format.binary64
      (packComponents Format.binary64 s (BitVec.ofNat 11 0) (BitVec.ofNat 52 0)) = .zero s := by
  cases s <;> rfl

theorem magnitude_of_full {q : Nat} {e : Int} (hq : 2 ^ 52 ≤ q) (he : 2 ^ 53 ≤ q ∨ 972 ≤ e)
    (hleast : 971 ≤ e) : ¬ magnitude q e < 2 ^ (1024 : Int) := by
  rw [not_lt]
  unfold magnitude
  rcases he with h | h
  · have hfull : (2 : ℝ) ^ (53 : Int) ≤ q := by exact_mod_cast h
    have hstep : (2 : ℝ) ^ (971 : Int) ≤ 2 ^ e := zpow_le_zpow_right₀ one_le_two hleast
    calc (2 : ℝ) ^ (1024 : Int) = 2 ^ (53 : Int) * 2 ^ (971 : Int) := by
          rw [← zpow_add₀ two_ne_zero]; rfl
      _ ≤ q * 2 ^ e := by gcongr
  · have hfull : (2 : ℝ) ^ (52 : Int) ≤ q := by exact_mod_cast hq
    have hstep : (2 : ℝ) ^ (972 : Int) ≤ 2 ^ e := zpow_le_zpow_right₀ one_le_two h
    calc (2 : ℝ) ^ (1024 : Int) = 2 ^ (52 : Int) * 2 ^ (972 : Int) := by
          rw [← zpow_add₀ two_ne_zero]; rfl
      _ ≤ q * 2 ^ e := by gcongr

theorem worth_unpack_normal (s : Sign) {k m : Nat} (h0 : 0 < k) (h1 : k < 2047)
    (hm : m < 2 ^ 52) :
    worth (repacked (UnpackedFloat.unpack Format.binary64
      (packComponents Format.binary64 s (BitVec.ofNat 11 k) (BitVec.ofNat 52 m)))) =
      bounded s (magnitude (2 ^ 52 + m) (k - 1075)) := by
  have hman : (BitVec.ofNat 52 m).toNat = m := Nat.mod_eq_of_lt hm
  have hexp : (BitVec.ofNat 11 k).toNat = k := Nat.mod_eq_of_lt (by omega)
  have hcanonical : Canonical (2 ^ 52 + (BitVec.ofNat 52 m).toNat)
      ((BitVec.ofNat 11 k).toNat - 1075) := by
    rw [hman, hexp]
    exact ⟨by omega, by omega, .inl (by omega)⟩
  rw [unpack_normal s (BitVec.ofNat 52 m) (hexp.symm ▸ h0) (hexp.symm ▸ h1),
    worth_repacked_finite s hcanonical, hman, hexp]

theorem worth_unpack_subnormal (s : Sign) {m : Nat} (hm : m < 2 ^ 52) :
    worth (repacked (UnpackedFloat.unpack Format.binary64
      (packComponents Format.binary64 s (BitVec.ofNat 11 0) (BitVec.ofNat 52 m)))) =
      bounded s (magnitude m (-1074)) := by
  have hman : (BitVec.ofNat 52 m).toNat = m := Nat.mod_eq_of_lt hm
  rcases Nat.eq_zero_or_pos m with rfl | hpos
  · rw [unpack_zero, repacked_zero, magnitude, Nat.cast_zero, zero_mul, bounded_zero]
    rfl
  · have hcanonical : Canonical (BitVec.ofNat 52 m).toNat (-1074) := by
      rw [hman]
      exact ⟨by omega, le_rfl, .inr rfl⟩
    have hsub := unpack_subnormal s (BitVec.ofNat 52 m) (hman.symm ▸ hpos)
    rw [hsub, worth_repacked_finite s hcanonical, hman]

/-- A mantissa that was rounded up to the next power of two carries into the exponent. -/
theorem magnitude_carry {k q E M : Nat} (hq : q ≤ 2 ^ 53) (hfull : 2 ^ 52 ≤ q)
    (hparts : k * 2 ^ 52 + q = E * 2 ^ 52 + M) (hM : M < 2 ^ 52) :
    magnitude (2 ^ 52 + M) (E - 1075) = magnitude q (k - 1074) := by
  unfold magnitude
  rcases hq.eq_or_lt with rfl | hq
  · obtain rfl : M = 0 := by omega
    obtain rfl : E = k + 2 := by omega
    rw [show ((k + 2 : Nat) : Int) - 1075 = (k - 1074) + 1 by omega, zpow_add_one₀ two_ne_zero]
    push_cast
    ring
  · obtain rfl : E = k + 1 := by omega
    obtain rfl : q = 2 ^ 52 + M := by omega
    rw [show ((k + 1 : Nat) : Int) - 1075 = k - 1074 by omega]

theorem value_ofBits_capped (s : Sign) {k q : Nat} (hq : q ≤ 2 ^ 53) (hfull : 2 ^ 52 ≤ q ∨ k = 0) :
    value (Float.ofBits (UInt64.ofNat (min (k * 2 ^ 52 + q) (2047 * 2 ^ 52) + signBits s))) =
      bounded s (magnitude q (k - 1074)) := by
  rcases Nat.lt_or_ge (k * 2 ^ 52 + q) (2047 * 2 ^ 52) with hlt | hge
  · rw [min_eq_left hlt.le]
    have hparts := (Nat.div_add_mod' (k * 2 ^ 52 + q) (2 ^ 52)).symm
    have hM := Nat.mod_lt (k * 2 ^ 52 + q) (Nat.two_pow_pos 52)
    generalize (k * 2 ^ 52 + q) % 2 ^ 52 = M at hparts hM
    generalize (k * 2 ^ 52 + q) / 2 ^ 52 = E at hparts
    rw [value_ofBits s (k := E) (by omega) hM hparts]
    rcases Nat.eq_zero_or_pos E with rfl | hE
    · obtain rfl : k = 0 := by omega
      obtain rfl : M = q := by omega
      rw [worth_unpack_subnormal s hM, Nat.cast_zero, zero_sub]
    · rw [worth_unpack_normal s hE (by omega) hM]
      exact congrArg (bounded s) (magnitude_carry hq (by omega) hparts hM)
  · rw [min_eq_right hge]
    rw [value_ofBits s (k := 2047) (m := 0) (by norm_num) (by norm_num) (by omega),
      unpack_infinity, repacked_infinity, bounded, if_neg]
    · rfl
    · exact magnitude_of_full (by omega) (by omega) (by omega)

theorem power_eq {e : Int} (h : 0 ≤ e) : (power 2 e : ℝ) = 2 ^ e := by
  obtain ⟨n, rfl⟩ := Int.eq_ofNat_of_zero_le h
  simp [power]

theorem value_of_ofFloat? {x : Float} {b : Binary} (h : Binary.ofFloat? x = some b) :
    value x = b.real := by
  rw [ofFloat?_eq] at h
  unfold value
  cases hu : x.toModel.unpack with
  | notANumber => simp [hu] at h
  | infinity s => simp [hu] at h
  | zero s =>
      simp only [hu, Option.some.injEq] at h
      subst h
      simp [worth, Binary.real, Binary.signed]
  | finite s m e hm =>
      simp only [hu, Option.some.injEq] at h
      subst h
      cases s with
      | negative =>
          rw [show (Sign.negative == Sign.negative) = true from rfl]
          simp [worth, Binary.real, Binary.signed, signed, magnitude]
      | positive =>
          rw [show (Sign.positive == Sign.negative) = false from rfl]
          simp [worth, Binary.real, Binary.signed, signed, magnitude]

def signOf (negative : Bool) : Sign := if negative then .negative else .positive

theorem Binary.real_eq (b : Binary) :
    b.real = Number.signed (signOf b.negative) (magnitude b.mantissa b.exponent) := by
  unfold Binary.real Binary.signed
  cases b.negative with
  | true => simp [signOf, Number.signed, magnitude]
  | false => simp [signOf, Number.signed, magnitude]

theorem nearest_target (m : Nat) (e : Int) :
    Nearest (magnitude m e / 2 ^ target m e)
      (if 0 ≤ target m e - e then roundDiv m (power 2 (target m e - e))
        else m * power 2 (-(target m e - e))) := by
  have hscaled : magnitude m e / 2 ^ target m e = m / 2 ^ (target m e - e) := by
    rw [magnitude, zpow_sub₀ two_ne_zero, div_div_eq_mul_div]
  rw [hscaled]
  split
  · next h =>
      rw [← power_eq h]
      exact nearest_roundDiv m (Nat.two_pow_pos _)
  · next h =>
      rw [div_eq_mul_inv, ← zpow_neg, ← power_eq (by omega)]
      exact_mod_cast Nearest.natCast _

theorem approximates_toFloat (b : Binary) : Approximates b.real (value b.toFloat) := by
  rw [b.real_eq]
  obtain ⟨negative, m, e⟩ := b
  unfold Binary.toFloat
  dsimp only
  split
  · next hm =>
      have hzero : signed (signOf negative) (magnitude m e) = signed (signOf negative) 0 := by
        rw [hm, magnitude, Nat.cast_zero, zero_mul]
      have hvalue : value (if negative then -0.0 else 0.0) = bounded (signOf negative) 0 := by
        rw [bounded_zero]
        cases negative <;> rfl
      rw [hzero, hvalue]
      exact .mk rfl le_rfl rounds_zero
  · next hm =>
      have htarget : max ((m.log2 : Int) - 52) (-1074 - e) = target m e - e := by
        unfold target
        omega
      have hleast : -1074 ≤ target m e := le_max_right _ _
      have hnear := nearest_target m e
      rw [htarget]
      generalize (if 0 ≤ target m e - e then roundDiv m (power 2 (target m e - e))
        else m * power 2 (-(target m e - e))) = q at hnear ⊢
      have hgrid := grid_target (Nat.pos_of_ne_zero hm) e
      have hround : Rounds (magnitude m e) (magnitude q (target m e)) := .on hgrid hnear
      have hvalue := value_ofBits_capped (signOf negative) (k := (target m e + 1074).toNat)
        (hnear.le_of_grid hgrid) ((hnear.full_of_grid hgrid).imp_right (by omega))
      have h52 : power 2 52 = 2 ^ 52 := by rfl
      have h63 : power 2 63 = 2 ^ 63 := by rfl
      have hcap : 0x7FF0000000000000 = 2047 * 2 ^ 52 := by norm_num
      have hbits (n : Nat) : (if negative = true then n + 2 ^ 63 else n) =
          n + signBits (signOf negative) := by
        cases negative with
        | true => rfl
        | false => rfl
      rw [add_sub_cancel, h52, h63, hcap, hbits, hvalue, Int.toNat_of_nonneg (by omega),
        add_sub_cancel_right]
      exact .mk rfl (magnitude_pos (Nat.pos_of_ne_zero hm) e).le hround

theorem approximates_natCast (n : Nat) :
    Approximates n (value (Binary.toFloat ⟨false, n, 0⟩)) := by
  have h := approximates_toFloat ⟨false, n, 0⟩
  rw [Binary.real_eq] at h
  simpa [signOf, signed, magnitude] using h

theorem exists_ofFloat? {x : Float} {r : ℝ} (h : value x = r) :
    ∃ b, Binary.ofFloat? x = some b ∧ b.real = r := by
  have hsome : (Binary.ofFloat? x).isSome = true := by
    rw [ofFloat?_eq]
    unfold value at h
    cases hu : x.toModel.unpack with
    | notANumber =>
        rw [hu] at h
        exact absurd h.symm (EReal.coe_ne_bot r)
    | infinity s =>
        rw [hu] at h
        cases s with
        | negative => exact absurd h.symm (EReal.coe_ne_bot r)
        | positive => exact absurd h.symm (EReal.coe_ne_top r)
    | zero s => rfl
    | finite s m e hm => rfl
  obtain ⟨b, hb⟩ := Option.isSome_iff_exists.1 hsome
  exact ⟨b, hb, EReal.coe_eq_coe_iff.1 ((value_of_ofFloat? hb).symm.trans h)⟩

theorem isFinite_of_value {x : Float} {r : ℝ} (h : value x = r) : isFinite x = true := by
  obtain ⟨b, hb, -⟩ := exists_ofFloat? h
  unfold Binary.ofFloat? at hb
  by_contra hn
  rw [if_neg hn] at hb
  cases hb

theorem approximates_greatest_power : Approximates (2 ^ 1023) ((2 ^ 1023 : ℝ) : EReal) := by
  have hcanonical : Canonical (2 ^ 52) 971 := ⟨by norm_num, by norm_num, .inl le_rfl⟩
  have hvalue : magnitude (2 ^ 52) 971 = 2 ^ 1023 := by
    unfold magnitude
    rw [Nat.cast_pow, Nat.cast_ofNat, ← zpow_natCast, ← zpow_natCast, ← zpow_add₀ two_ne_zero]
    rfl
  have h := Approximates.mk (s := .positive) rfl (magnitude_pos (by norm_num) 971).le
    (rounds_magnitude hcanonical)
  rw [bounded, if_pos ((magnitude_lt_iff hcanonical).2 (by norm_num)), hvalue] at h
  exact h

theorem Approximates.exists_real {n : Nat} {v : EReal} (h : Approximates n v)
    (hn : n ≤ 2 ^ 1023) : ∃ r : ℝ, v = r := by
  have hlow := (approximates_natCast 0).mono h (by exact_mod_cast n.zero_le)
  have hhigh := h.mono approximates_greatest_power (by exact_mod_cast hn)
  have hzero : value (Binary.toFloat ⟨false, 0, 0⟩) = (0 : ℝ) := by rfl
  rw [hzero] at hlow
  have hbot := ne_bot_of_le_ne_bot (EReal.coe_ne_bot 0) hlow
  have htop := ne_top_of_le_ne_top (EReal.coe_ne_top _) hhigh
  exact ⟨_, (EReal.coe_toReal htop hbot).symm⟩

theorem isFinite_natCast {n : Nat} (h : n ≤ 2 ^ 1023) :
    isFinite (Binary.toFloat ⟨false, n, 0⟩) = true := by
  obtain ⟨r, hr⟩ := (approximates_natCast n).exists_real h
  exact isFinite_of_value hr

end Switchboard.Number
