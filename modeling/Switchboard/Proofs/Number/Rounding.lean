import Switchboard.Proofs.Number.Value

namespace Switchboard.Number

open Float.Model Float.Model.UnpackedFloat

structure Nearest (x : ℝ) (n : Nat) : Prop where
  close : |(n : ℝ) - x| ≤ 1 / 2
  tie : |(n : ℝ) - x| = 1 / 2 → Even n

theorem Nearest.mono {x y : ℝ} {m n : Nat} (hm : Nearest x m) (hn : Nearest y n) (h : x ≤ y) :
    m ≤ n := by
  by_contra hlt
  have hstep : (n : ℝ) + 1 ≤ m := by exact_mod_cast Nat.lt_of_not_le hlt
  have hx := abs_le.1 hm.close
  have hy := abs_le.1 hn.close
  have hmx : (m : ℝ) - x = 1 / 2 := by linarith [hx.2, hy.1]
  have hny : (n : ℝ) - y = -(1 / 2) := by linarith [hx.2, hy.1]
  have hmn : (m : ℝ) = n + 1 := by linarith
  have hem : Even m := hm.tie (by rw [hmx]; norm_num)
  have hen : Even n := hn.tie (by rw [hny]; norm_num)
  have hsucc : m = n + 1 := by exact_mod_cast hmn
  rw [hsucc, Nat.even_add_one] at hem
  exact hem hen

theorem Nearest.natCast (n : Nat) : Nearest n n where
  close := by simp
  tie := by norm_num

theorem Nearest.le {x : ℝ} {m n : Nat} (h : Nearest x n) (hx : x ≤ m) : n ≤ m :=
  h.mono (.natCast m) hx

theorem Nearest.ge {x : ℝ} {m n : Nat} (h : Nearest x n) (hx : m ≤ x) : m ≤ n :=
  (Nearest.natCast m).mono h hx

structure Grid (x : ℝ) (e : Int) : Prop where
  least : -1074 ≤ e
  below : x < 2 ^ (e + 53)
  full : 2 ^ (e + 52) ≤ x ∨ e = -1074

theorem Grid.le {x y : ℝ} {e k : Int} (hx : Grid x e) (hy : Grid y k) (h : x ≤ y) : e ≤ k := by
  by_contra hlt
  have hk := hy.least
  have hfull : (2 : ℝ) ^ (e + 52) ≤ x := hx.full.resolve_right (by omega)
  have hpow : (2 : ℝ) ^ (k + 53) ≤ 2 ^ (e + 52) := zpow_le_zpow_right₀ one_le_two (by omega)
  linarith [hy.below]

theorem Nearest.le_of_grid {x : ℝ} {e : Int} {n : Nat} (hn : Nearest (x / 2 ^ e) n)
    (hx : Grid x e) : n ≤ 2 ^ 53 := by
  have hpos : (0 : ℝ) < 2 ^ e := by positivity
  refine hn.le ((div_le_iff₀ hpos).2 ?_)
  have hbelow := hx.below
  rw [zpow_add₀ two_ne_zero, mul_comm] at hbelow
  exact_mod_cast hbelow.le

theorem Nearest.full_of_grid {x : ℝ} {e : Int} {n : Nat} (hn : Nearest (x / 2 ^ e) n)
    (hx : Grid x e) : 2 ^ 52 ≤ n ∨ e = -1074 := by
  have hpos : (0 : ℝ) < 2 ^ e := by positivity
  refine hx.full.imp_left fun hfull => hn.ge ((le_div_iff₀ hpos).2 ?_)
  rw [zpow_add₀ two_ne_zero, mul_comm] at hfull
  exact_mod_cast hfull

inductive Rounds (x : ℝ) : ℝ → Prop
  | on {e n} : Grid x e → Nearest (x / 2 ^ e) n → Rounds x (magnitude n e)

theorem Rounds.mono {x y v w : ℝ} (hv : Rounds x v) (hw : Rounds y w) (h : x ≤ y) : v ≤ w := by
  obtain @⟨e, m, hx, hm⟩ := hv
  obtain @⟨k, n, hy, hn⟩ := hw
  have hpe : (0 : ℝ) < 2 ^ e := by positivity
  have hpk : (0 : ℝ) < 2 ^ k := by positivity
  unfold magnitude
  rcases (hx.le hy h).eq_or_lt with rfl | hlt
  · have hmn : m ≤ n := hm.mono hn (by gcongr)
    gcongr
  · have hleast := hx.least
    have hm := hm.le_of_grid hx
    have hn := (hn.full_of_grid hy).resolve_right (by omega)
    have hstep := zpow_mul_two_le hlt
    have hm : (m : ℝ) ≤ 2 ^ 53 := by exact_mod_cast hm
    have hn : (2 : ℝ) ^ 52 ≤ n := by exact_mod_cast hn
    nlinarith

theorem Rounds.eq {x v w : ℝ} (hv : Rounds x v) (hw : Rounds x w) : v = w :=
  le_antisymm (hv.mono hw le_rfl) (hw.mono hv le_rfl)

structure Holds (em : ExtendedMantissa) (x : ℝ) : Prop where
  least : kept em ≤ x
  below : x < kept em + 1 / 2
  sticky : em.stickyBit = true ↔ kept em < x

theorem Holds.natCast (m : Nat) : Holds ⟨m, false, false⟩ m where
  least := by simp [kept]
  below := by simp [kept]
  sticky := by simp [kept]

theorem kept_shiftRightOne (em : ExtendedMantissa) :
    kept em.shiftRightOne = (kept em - em.roundBit.toNat / 2) / 2 := by
  obtain ⟨m, r, s⟩ := em
  have hm : (m : ℝ) = 2 * (m / 2 : Nat) + (m % 2 : Nat) := by
    exact_mod_cast (Nat.div_add_mod m 2).symm
  have hr : (m % 2 != 0).toNat = m % 2 := by
    rcases Nat.mod_two_eq_zero_or_one m with h | h <;> rw [h] <;> rfl
  simp only [kept, ExtendedMantissa.shiftRightOne, hr]
  linarith

theorem Holds.shiftRightOne {em : ExtendedMantissa} {x : ℝ} (h : Holds em x) :
    Holds em.shiftRightOne (x / 2) := by
  have hk := kept_shiftRightOne em
  have hbit : (0 : ℝ) ≤ em.roundBit.toNat ∧ (em.roundBit.toNat : ℝ) ≤ 1 := by
    cases em.roundBit <;> simp
  refine ⟨by linarith [h.least], by linarith [h.below], ?_⟩
  have hor : em.shiftRightOne.stickyBit = true ↔ em.roundBit = true ∨ em.stickyBit = true :=
    Bool.or_eq_true_iff
  rw [hor, h.sticky, hk]
  cases hr : em.roundBit with
  | false =>
      simp only [Bool.false_eq_true, false_or, Bool.toNat_false, Nat.cast_zero]
      constructor <;> intro h <;> linarith
  | true =>
      simp only [true_or, Bool.toNat_true, Nat.cast_one, true_iff]
      linarith [h.least]

theorem Holds.shiftRight {em : ExtendedMantissa} {x : ℝ} (h : Holds em x) (k : Nat) :
    Holds (em >>> k) (x / 2 ^ k) := by
  induction k with
  | zero => rwa [pow_zero, div_one]
  | succ k ih =>
      rw [pow_succ, ← div_div]
      exact ih.shiftRightOne

theorem Holds.nearest {em : ExtendedMantissa} {x : ℝ} (h : Holds em x) :
    Nearest x em.roundedMantissa := by
  obtain ⟨m, r, s⟩ := em
  obtain ⟨hleast, hbelow, hsticky⟩ := h
  cases r with
  | false =>
      have hkept : kept ⟨m, false, s⟩ = m := by simp [kept]
      rw [hkept] at hleast hbelow
      have hround : ExtendedMantissa.roundedMantissa ⟨m, false, s⟩ = m := by cases s <;> rfl
      rw [hround]
      have habs : |(m : ℝ) - x| < 1 / 2 := abs_lt.2 ⟨by linarith, by linarith⟩
      exact ⟨habs.le, fun h => absurd h habs.ne⟩
  | true =>
      have hkept : kept ⟨m, true, s⟩ = m + 1 / 2 := by simp [kept]
      rw [hkept] at hleast hbelow hsticky
      cases s with
      | false =>
          have hx : x = m + 1 / 2 := le_antisymm (not_lt.1 (by simpa using hsticky)) hleast
          have hround : ExtendedMantissa.roundedMantissa ⟨m, true, false⟩ = m + m % 2 := rfl
          rw [hround]
          have heven : Even (m + m % 2) := by grind
          refine ⟨?_, fun _ => heven⟩
          rcases Nat.mod_two_eq_zero_or_one m with h | h <;> rw [h, hx, abs_le] <;> push_cast <;>
            constructor <;> linarith
      | true =>
          have hlt := hsticky.1 rfl
          have hround : ExtendedMantissa.roundedMantissa ⟨m, true, true⟩ = m + 1 := rfl
          rw [hround]
          have habs : |((m + 1 : Nat) : ℝ) - x| < 1 / 2 := by
            push_cast
            exact abs_lt.2 ⟨by linarith, by linarith⟩
          exact ⟨habs.le, fun h => absurd h habs.ne⟩

def target (m : Nat) (e : Int) : Int := max (m.log2 + e - 52) (-1074)

theorem targetExponent_eq (m : Nat) (e : Int) :
    Format.binary64.targetExponent (totalExponent m e) = target m e := by
  unfold Format.targetExponent totalExponent target
  norm_num [Format.mantissaBits, Format.minExponent]
  omega

theorem grid_of_wholePart {q : Nat} {x : ℝ} {e : Int} (hq : q ≤ x) (hx : x < q + 1)
    (h : 0 < q ∨ e ≤ -1074) : Grid (x * 2 ^ e) (target q e) := by
  have hpos : (0 : ℝ) < 2 ^ e := by positivity
  have hhigh : x < 2 ^ (q.log2 + 1) := by
    have hnext : q + 1 ≤ 2 ^ (q.log2 + 1) := Nat.lt_log2_self
    have hnext : (q : ℝ) + 1 ≤ 2 ^ (q.log2 + 1) := by exact_mod_cast hnext
    exact hx.trans_le hnext
  unfold target
  refine ⟨le_max_right _ _, ?_, ?_⟩
  · calc x * 2 ^ e < 2 ^ (q.log2 + 1) * 2 ^ e := by gcongr
      _ = 2 ^ ((q.log2 + 1 : Nat) + e : Int) := by rw [zpow_add₀ two_ne_zero, zpow_natCast]
      _ ≤ _ := zpow_le_zpow_right₀ one_le_two (by push_cast; omega)
  · by_cases hnormal : -1074 ≤ (q.log2 : Int) + e - 52
    · have hq0 : q ≠ 0 := by
        rintro rfl
        rw [Nat.log2_zero] at hnormal
        omega
      have hlow : (2 : ℝ) ^ q.log2 ≤ q := by exact_mod_cast Nat.log2_self_le hq0
      left
      calc (2 : ℝ) ^ (max (q.log2 + e - 52) (-1074) + 52 : Int) = 2 ^ ((q.log2 : Int) + e) := by
            rw [max_eq_left hnormal]; congr 1; omega
        _ = 2 ^ q.log2 * 2 ^ e := by rw [zpow_add₀ two_ne_zero, zpow_natCast]
        _ ≤ x * 2 ^ e := by gcongr; exact hlow.trans hq
    · right
      omega

theorem grid_target {m : Nat} (hm : 0 < m) (e : Int) : Grid (magnitude m e) (target m e) :=
  grid_of_wholePart le_rfl (lt_add_one _) (.inl hm)

theorem shiftToTargetExponent_eq {m : Nat} {e : Int} (a : Accuracy) :
    shiftToTargetExponent Format.binary64 m e a =
      (ExtendedMantissa.ofMantissaAndAccuracy m a >>> (target m e - e).toNat,
        max (target m e) e) := by
  unfold shiftToTargetExponent shiftToExponent
  rw [targetExponent_eq]
  dsimp only
  congr 1
  omega

inductive RoundsTo (s : Sign) (x : ℝ) : UnpackedFloat → Prop
  | zero : Rounds x 0 → RoundsTo s x (.zero s)
  | finite {n k h} : Rounds x (magnitude n k) → Canonical n k → RoundsTo s x (.finite s n k h)

def ofMantissa (s : Sign) (m : Nat) (e : Int) : UnpackedFloat :=
  if h : m = 0 then .zero s else .finite s m e (Nat.pos_of_ne_zero h)

theorem roundsTo_shiftToTargetExponent {x : ℝ} {e : Int} {n : Nat} (s : Sign) (hx : Grid x e)
    (hn : Nearest (x / 2 ^ e) n) :
    RoundsTo s x (ofMantissa s (shiftToTargetExponent Format.binary64 n e .exact).1.mantissa
      (shiftToTargetExponent Format.binary64 n e .exact).2) := by
  have hpos : (0 : ℝ) < 2 ^ e := by positivity
  have hround : Rounds x (magnitude n e) := .on hx hn
  have hleast := hx.least
  have hle : n ≤ 2 ^ 53 := hn.le_of_grid hx
  have hfull : 2 ^ 52 ≤ n ∨ e = -1074 := hn.full_of_grid hx
  rw [shiftToTargetExponent_eq]
  rcases hle.lt_or_eq with hlt | rfl
  · have hlog : n.log2 ≤ 52 := by
      by_cases h0 : n = 0
      · simp [h0]
      · have := (Nat.log2_lt h0).2 hlt
        omega
    have htarget : target n e ≤ e := by
      unfold target
      omega
    rw [show (target n e - e).toNat = 0 by omega, max_eq_right htarget]
    change RoundsTo s x (ofMantissa s n e)
    unfold ofMantissa
    split
    · next h0 => exact .zero (by simpa [magnitude, h0] using hround)
    · exact .finite hround ⟨hlt, hleast, hfull⟩
  -- rounded up to the next power of two, the mantissa takes one bit too many
  · have htarget : target (2 ^ 53) e = e + 1 := by
      rw [target, Nat.log2_two_pow]
      omega
    rw [htarget, show (e + 1 - e).toNat = 1 by omega, max_eq_left (by omega)]
    change RoundsTo s x (.finite s (2 ^ 52) (e + 1) _)
    refine .finite ?_ ⟨by norm_num, by omega, .inl le_rfl⟩
    have hsame : magnitude (2 ^ 52) (e + 1) = magnitude (2 ^ 53) e := by
      unfold magnitude
      rw [zpow_add_one₀ two_ne_zero]
      push_cast
      ring
    rwa [hsame]

theorem roundsTo_of_holds {m : Nat} {e : Int} {a : Accuracy} {x : ℝ} (s : Sign)
    (hx : Holds (ExtendedMantissa.ofMantissaAndAccuracy m a) x)
    (hgrid : Grid (x * 2 ^ e) (target m e)) (he : e ≤ target m e) :
    RoundsTo s (x * 2 ^ e) (roundWithAccuracy Format.binary64 s m e a) := by
  have hheld := (hx.shiftRight (target m e - e).toNat).nearest
  have hscaled : x / 2 ^ (target m e - e).toNat = x * 2 ^ e / 2 ^ target m e := by
    rw [mul_div_assoc, ← zpow_sub₀ two_ne_zero, div_eq_mul_inv, ← zpow_natCast, ← zpow_neg]
    congr 2
    omega
  rw [hscaled] at hheld
  have hround := roundsTo_shiftToTargetExponent s hgrid hheld
  unfold roundWithAccuracy
  rw [shiftToTargetExponent_eq, max_eq_left he]
  exact hround

theorem roundsTo_roundWithAccuracy {m : Nat} {e : Int} (s : Sign) (hm : 0 < m)
    (he : e ≤ target m e) :
    RoundsTo s (magnitude m e) (roundWithAccuracy Format.binary64 s m e .exact) :=
  roundsTo_of_holds s (.natCast m) (grid_target hm e) he

theorem log2_shiftLeft {m : Nat} (hm : 0 < m) (k : Nat) : (m <<< k).log2 = m.log2 + k := by
  rw [Nat.shiftLeft_eq, Nat.log2_eq_iff (by positivity), add_right_comm, pow_add, pow_add]
  exact ⟨Nat.mul_le_mul_right _ (Nat.log2_self_le hm.ne'),
    Nat.mul_lt_mul_of_pos_right Nat.lt_log2_self (by positivity)⟩

theorem roundsTo_round {m : Nat} (s : Sign) (hm : 0 < m) (e : Int) :
    RoundsTo s (magnitude m e) (UnpackedFloat.round Format.binary64 s m e) := by
  unfold UnpackedFloat.round decreaseExponent
  rw [targetExponent_eq]
  dsimp only
  generalize hk : (e - target m e).toNat = k
  have hpos : 0 < m <<< k := by
    rw [Nat.shiftLeft_eq]
    positivity
  have hsame : magnitude (m <<< k) (e - k) = magnitude m e := by
    unfold magnitude
    rw [Nat.shiftLeft_eq, zpow_sub₀ two_ne_zero, zpow_natCast]
    push_cast
    field_simp
  have htarget : target (m <<< k) (e - k) = target m e := by
    unfold target
    rw [log2_shiftLeft hm]
    push_cast
    congr 1
    omega
  rw [← hsame]
  refine roundsTo_roundWithAccuracy s hpos ?_
  rw [htarget]
  omega

end Switchboard.Number
