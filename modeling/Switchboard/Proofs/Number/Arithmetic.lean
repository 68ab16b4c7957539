import Switchboard.Proofs.Number.Rounding

namespace Switchboard.Number

open Float.Model Float.Model.UnpackedFloat

def repacked (u : UnpackedFloat) : UnpackedFloat :=
  UnpackedFloat.unpack Format.binary64 (UnpackedFloat.pack Format.binary64 u)

theorem repacked_infinity (s : Sign) : repacked (.infinity s) = .infinity s := by
  cases s <;> rfl

theorem repacked_zero (s : Sign) : repacked (.zero s) = .zero s := by
  cases s <;> rfl

theorem pack_finite {m : Nat} {e : Int} (s : Sign) (h : Canonical m e) (hm : 0 < m) :
    UnpackedFloat.pack Format.binary64 (.finite s m e hm) =
      if 972 ≤ e then packedInfinity Format.binary64 s
      else if 2 ^ 52 ≤ m then
        packComponents Format.binary64 s (BitVec.ofNat 11 (e + 1075).toNat) (BitVec.ofNat 52 m)
      else packComponents Format.binary64 s 0#11 (BitVec.ofNat 52 m) := by
  have hbias : e + (Format.exponentBias Format.binary64 : Int) + (52 : Nat) = e + 1075 := by
    norm_num [Format.exponentBias]
    omega
  have hover : 2 ^ 11 ≤ (e + 1075).toNat + 1 ↔ 972 ≤ e := by omega
  have hlog : m.log2 + 1 = Format.binary64.mantissaBits ↔ 2 ^ 52 ≤ m := by
    rw [show Format.binary64.mantissaBits = 52 + 1 from rfl, Nat.add_right_cancel_iff,
      Nat.log2_eq_iff hm.ne']
    exact and_iff_left h.below
  unfold UnpackedFloat.pack
  dsimp only
  rw [hbias]
  simp only [hover, hlog]

theorem unpack_normal (s : Sign) {x : BitVec 11} (m : BitVec 52) (h0 : 0 < x.toNat)
    (h1 : x.toNat < 2047) :
    UnpackedFloat.unpack Format.binary64 (packComponents Format.binary64 s x m) =
      .finite s (2 ^ 52 + m.toNat) (x.toNat - 1075) (by positivity) := by
  have hones : x ≠ -1#11 := by
    rintro rfl
    exact absurd h1 (by decide)
  have hzero : x ≠ 0#11 := by
    rintro rfl
    exact absurd h0 (by decide)
  unfold UnpackedFloat.unpack
  simp only [unpackExponent_packComponents, unpackMantissa_packComponents,
    unpackSign_packComponents, Sign.ofBitVec_toBitVec, if_neg hones, if_neg hzero,
    toNat_one_append]
  rfl

theorem unpack_subnormal (s : Sign) (m : BitVec 52) (h0 : 0 < m.toNat) :
    UnpackedFloat.unpack Format.binary64 (packComponents Format.binary64 s 0#11 m) =
      .finite s m.toNat (-1074) h0 := by
  have hzero : m ≠ 0#52 := by
    rintro rfl
    exact absurd h0 (by decide)
  unfold UnpackedFloat.unpack
  simp only [unpackExponent_packComponents, unpackMantissa_packComponents,
    unpackSign_packComponents, Sign.ofBitVec_toBitVec, dif_neg hzero]
  rfl

theorem repacked_finite {m : Nat} {e : Int} (s : Sign) (h : Canonical m e) (hm : 0 < m) :
    repacked (.finite s m e hm) = if 972 ≤ e then .infinity s else .finite s m e hm := by
  have hbelow := h.below
  have hleast := h.least
  have hfull := h.full
  unfold repacked
  rw [pack_finite s h hm]
  split
  · exact repacked_infinity s
  · split
    · next he hnorm =>
        have hexp : (BitVec.ofNat 11 (e + 1075).toNat).toNat = (e + 1075).toNat := by
          rw [BitVec.toNat_ofNat, Nat.mod_eq_of_lt (by omega)]
        rw [unpack_normal s _ (by omega) (by omega)]
        congr 1
        · rw [BitVec.toNat_ofNat]
          omega
        · rw [hexp]
          omega
    · next he hsub =>
        have hman : (BitVec.ofNat 52 m).toNat = m := by
          rw [BitVec.toNat_ofNat, Nat.mod_eq_of_lt (by omega)]
        rw [unpack_subnormal s _ (by omega)]
        congr 1
        exact (hfull.resolve_left hsub).symm

theorem magnitude_lt_iff {m : Nat} {e : Int} (h : Canonical m e) :
    magnitude m e < 2 ^ (1024 : Int) ↔ ¬ 972 ≤ e := by
  have hpos : (0 : ℝ) < 2 ^ e := by positivity
  unfold magnitude
  constructor
  · intro hlt he
    have hfull : 2 ^ 52 ≤ m := h.full.resolve_right (by omega)
    have hfull : (2 : ℝ) ^ (52 : Int) ≤ m := by exact_mod_cast hfull
    have hstep : (2 : ℝ) ^ (972 : Int) ≤ 2 ^ e := zpow_le_zpow_right₀ one_le_two he
    have hge : (2 : ℝ) ^ (52 : Int) * 2 ^ (972 : Int) ≤ m * 2 ^ e := by gcongr
    rw [← zpow_add₀ two_ne_zero] at hge
    exact hlt.not_ge hge
  · intro he
    have hbelow : (m : ℝ) < 2 ^ (53 : Int) := by exact_mod_cast h.below
    calc (m : ℝ) * 2 ^ e < 2 ^ (53 : Int) * 2 ^ e := by gcongr
      _ = 2 ^ (53 + e) := by rw [zpow_add₀ two_ne_zero]
      _ ≤ 2 ^ (1024 : Int) := zpow_le_zpow_right₀ one_le_two (by omega)

theorem worth_repacked_finite {m : Nat} {e : Int} (s : Sign) (h : Canonical m e) (hm : 0 < m) :
    worth (repacked (.finite s m e hm)) = bounded s (magnitude m e) := by
  rw [repacked_finite s h hm, bounded]
  simp only [magnitude_lt_iff h]
  split
  · rfl
  · rfl

theorem RoundsTo.worth_repacked {s : Sign} {x : ℝ} {u : UnpackedFloat} (h : RoundsTo s x u) :
    ∃ y, Rounds x y ∧ worth (repacked u) = bounded s y := by
  cases h with
  | zero h =>
      refine ⟨0, h, ?_⟩
      rw [repacked_zero, bounded, if_pos (by positivity)]
      cases s <;> simp [worth, signed]
  | @finite n k hn h hc => exact ⟨_, h, worth_repacked_finite s hc hn⟩

theorem rounds_zero : Rounds 0 0 := by
  have hgrid : Grid 0 (-1074) := ⟨le_rfl, by positivity, .inr rfl⟩
  have hnear : Nearest (0 / 2 ^ (-1074 : Int)) 0 := by
    rw [zero_div]
    exact_mod_cast Nearest.natCast 0
  simpa [magnitude] using Rounds.on hgrid hnear

theorem rounds_magnitude {m : Nat} {e : Int} (h : Canonical m e) :
    Rounds (magnitude m e) (magnitude m e) := by
  have hpos : (0 : ℝ) < 2 ^ e := by positivity
  refine .on ⟨h.least, ?_, h.full.imp_left fun hfull => ?_⟩ ?_
  · have hbelow : (m : ℝ) < 2 ^ (53 : Int) := by exact_mod_cast h.below
    rw [add_comm, zpow_add₀ two_ne_zero]
    exact mul_lt_mul_of_pos_right hbelow hpos
  · have hfull : (2 : ℝ) ^ (52 : Int) ≤ m := by exact_mod_cast hfull
    rw [add_comm, zpow_add₀ two_ne_zero]
    exact mul_le_mul_of_nonneg_right hfull hpos.le
  · rw [magnitude, mul_div_assoc, div_self hpos.ne', mul_one]
    exact Nearest.natCast m

theorem Rounds.nonneg {x y : ℝ} (h : Rounds x y) : 0 ≤ y := by
  obtain ⟨-, -⟩ := h
  unfold magnitude
  positivity

theorem bounded_positive_mono {x y : ℝ} (h : x ≤ y) :
    bounded .positive x ≤ bounded .positive y := by
  unfold bounded
  split
  · split
    · exact EReal.coe_le_coe_iff.2 h
    · exact le_top
  · rw [if_neg (by linarith)]

theorem bounded_negative_eq (x : ℝ) : bounded .negative x = -bounded .positive x := by
  unfold bounded
  split <;> rfl

inductive Approximates (x : ℝ) : EReal → Prop
  | mk {s y r} : x = signed s y → 0 ≤ y → Rounds y r → Approximates x (bounded s r)

theorem bounded_zero (s : Sign) : bounded s 0 = 0 := by
  rw [bounded, if_pos (by positivity)]
  cases s <;> simp [signed]

theorem Approximates.mono {x y : ℝ} {v w : EReal} (hv : Approximates x v) (hw : Approximates y w)
    (h : x ≤ y) : v ≤ w := by
  obtain @⟨s, a, q, rfl, ha, hq⟩ := hv
  obtain @⟨t, b, r, rfl, hb, hr⟩ := hw
  have hq0 : 0 ≤ bounded .positive q := by
    rw [← bounded_zero .positive]
    exact bounded_positive_mono hq.nonneg
  have hr0 : 0 ≤ bounded .positive r := by
    rw [← bounded_zero .positive]
    exact bounded_positive_mono hr.nonneg
  cases s <;> cases t
  · rw [bounded_negative_eq, bounded_negative_eq, EReal.neg_le_neg_iff]
    exact bounded_positive_mono (hr.mono hq (neg_le_neg_iff.1 h))
  · rw [bounded_negative_eq]
    exact (EReal.neg_le_zero.2 hq0).trans hr0
  · have hab : a ≤ -b := h
    obtain rfl : a = 0 := by linarith
    obtain rfl : b = 0 := by linarith
    rw [hq.eq rounds_zero, hr.eq rounds_zero, bounded_zero, bounded_zero]
  · exact bounded_positive_mono (hq.mono hr h)

theorem approximates_of_roundsTo {s : Sign} {x : ℝ} {u : UnpackedFloat} (hx : 0 ≤ x)
    (h : RoundsTo s x u) : Approximates (signed s x) (worth (repacked u)) := by
  obtain ⟨y, hy, hw⟩ := h.worth_repacked
  rw [hw]
  exact .mk rfl hx hy

theorem approximates_zero (s : Sign) : Approximates 0 (worth (repacked (.zero s))) := by
  rw [repacked_zero]
  have h := Approximates.mk (x := 0) (s := .positive) rfl le_rfl rounds_zero
  rwa [bounded_zero] at h

theorem approximates_finite {m : Nat} {e : Int} (s : Sign) (h : Canonical m e) (hm : 0 < m) :
    Approximates (signed s (magnitude m e)) (worth (repacked (.finite s m e hm))) := by
  rw [worth_repacked_finite s h hm]
  exact .mk rfl (magnitude_pos hm e).le (rounds_magnitude h)

theorem approximates_normalize (z : Int) (e : Int) (s : Sign) :
    Approximates (z * 2 ^ e) (worth (repacked (UnpackedFloat.normalize Format.binary64 z e s))) := by
  unfold UnpackedFloat.normalize
  rcases lt_trichotomy z 0 with h | rfl | h
  · rw [compare_lt_iff_lt.2 h]
    have hround := approximates_of_roundsTo (magnitude_pos (m := (-z).toNat) (by omega) e).le
      (roundsTo_round .negative (by omega) e)
    have hz : ((-z).toNat : ℝ) = -z := by
      have : ((-z).toNat : Int) = -z := by omega
      exact_mod_cast this
    simpa [signed, magnitude, hz] using hround
  · rw [Int.cast_zero, zero_mul]
    exact approximates_zero s
  · rw [compare_gt_iff_gt.2 h]
    have hround := approximates_of_roundsTo (magnitude_pos (m := z.toNat) (by omega) e).le
      (roundsTo_round .positive (by omega) e)
    have hz : (z.toNat : ℝ) = z := by
      have : (z.toNat : Int) = z := by omega
      exact_mod_cast this
    simpa [signed, magnitude, hz] using hround

inductive Measures : UnpackedFloat → ℝ → Prop
  | zero (s) : Measures (.zero s) 0
  | finite {s m e} (hm) : Canonical m e → Measures (.finite s m e hm) (signed s (magnitude m e))

theorem Measures.worth_eq {u : UnpackedFloat} {a : ℝ} (h : Measures u a) : worth u = a := by
  cases h <;> rfl

theorem Measures.approximates {u : UnpackedFloat} {a : ℝ} (h : Measures u a) :
    Approximates a (worth (repacked u)) := by
  cases h with
  | zero s => exact approximates_zero s
  | finite hm h => exact approximates_finite _ h hm

theorem Measures.neg {u : UnpackedFloat} {a : ℝ} (h : Measures u a) : Measures u.neg (-a) := by
  cases h with
  | zero s =>
      rw [neg_zero]
      exact .zero (-s)
  | @finite s m e hm h =>
      have hneg : -signed s (magnitude m e) = signed (-s) (magnitude m e) := by
        cases s
        · exact neg_neg _
        · rfl
      rw [hneg]
      exact .finite hm h

theorem apply_shiftLeft {m : Nat} {e k : Int} (s : Sign) (h : k ≤ e) :
    (s.apply ((m <<< (e - k).toNat : Nat) : Int) : ℝ) * 2 ^ k = signed s (magnitude m e) := by
  have hm : ((m <<< (e - k).toNat : Nat) : ℝ) * 2 ^ k = magnitude m e := by
    obtain ⟨n, hn⟩ := Int.eq_ofNat_of_zero_le (Int.sub_nonneg_of_le h)
    rw [hn, Int.toNat_natCast, Nat.shiftLeft_eq, magnitude, show e = n + k by omega,
      zpow_add₀ two_ne_zero, zpow_natCast]
    push_cast
    ring
  cases s with
  | negative => simp only [Sign.apply, signed, ← hm, Int.cast_neg, Int.cast_natCast, neg_mul]
  | positive => simp only [Sign.apply, signed, ← hm, Int.cast_natCast]

theorem approximates_sub {u v : UnpackedFloat} {a b : ℝ} (hu : Measures u a) (hv : Measures v b) :
    Approximates (a - b) (worth (repacked (UnpackedFloat.sub Format.binary64 u v))) := by
  cases hv with
  | zero t =>
      rw [sub_zero]
      cases hu with
      | zero s =>
          unfold UnpackedFloat.sub
          dsimp only
          split <;> exact approximates_zero _
      | finite hm h => exact approximates_finite _ h hm
  | @finite t n k hn hb =>
      cases hu with
      | zero s =>
          rw [zero_sub]
          exact (Measures.finite hn hb).neg.approximates
      | @finite s m e hm ha =>
          have hexact : signed s (magnitude m e) - signed t (magnitude n k) =
              ((s.apply ((m <<< (e - min e k).toNat : Nat) : Int) -
                t.apply ((n <<< (k - min e k).toNat : Nat) : Int) : Int) : ℝ) * 2 ^ min e k := by
            rw [Int.cast_sub, sub_mul, apply_shiftLeft s (min_le_left e k),
              apply_shiftLeft t (min_le_right e k)]
          rw [hexact]
          exact approximates_normalize _ _ _

theorem signed_mul (s t : Sign) (x y : ℝ) : signed s x * signed t y = signed (s * t) (x * y) := by
  cases s <;> cases t
  · exact neg_mul_neg x y
  · exact neg_mul x y
  · exact mul_neg x y
  · rfl

theorem approximates_mul {u v : UnpackedFloat} {a b : ℝ} (hu : Measures u a) (hv : Measures v b) :
    Approximates (a * b) (worth (repacked (UnpackedFloat.mul Format.binary64 u v))) := by
  cases hu with
  | zero s =>
      rw [zero_mul]
      cases hv <;> exact approximates_zero _
  | @finite s m e hm hu =>
      cases hv with
      | zero t =>
          rw [mul_zero]
          exact approximates_zero (s * t)
      | @finite t n k hn hv =>
          have hsame : magnitude m e * magnitude n k = magnitude (m * n) (e + k) := by
            unfold magnitude
            rw [zpow_add₀ two_ne_zero]
            push_cast
            ring
          have htarget : e + k ≤ target (m * n) (e + k) := by
            unfold target
            by_cases hleast : e + k ≤ -1074
            · exact hleast.trans (le_max_right _ _)
            · have hfull : 2 ^ 52 ≤ m * n := by
                rcases hu.full with h | h
                · exact h.trans (Nat.le_mul_of_pos_right m hn)
                · rcases hv.full with h' | h'
                  · exact h'.trans (Nat.le_mul_of_pos_left n hm)
                  · omega
              have hlog : 52 ≤ (m * n).log2 := (Nat.le_log2 (Nat.mul_pos hm hn).ne').2 hfull
              omega
          rw [signed_mul, hsame]
          exact approximates_of_roundsTo (magnitude_pos (Nat.mul_pos hm hn) _).le
            (roundsTo_roundWithAccuracy _ (Nat.mul_pos hm hn) htarget)

theorem value_sub (x y : Float) :
    value (x - y) =
      worth (repacked (UnpackedFloat.sub Format.binary64 x.toModel.unpack y.toModel.unpack)) := rfl

theorem value_mul (x y : Float) :
    value (x * y) =
      worth (repacked (UnpackedFloat.mul Format.binary64 x.toModel.unpack y.toModel.unpack)) := rfl

theorem unpack_cases (x : Float) :
    x.toModel.unpack = .notANumber ∨ (∃ s, x.toModel.unpack = .infinity s) ∨
      ∃ a, Measures x.toModel.unpack a := by
  cases hu : x.toModel.unpack with
  | notANumber => exact .inl rfl
  | infinity s => exact .inr (.inl ⟨s, rfl⟩)
  | zero s => exact .inr (.inr ⟨0, .zero s⟩)
  | finite s m e hm => exact .inr (.inr ⟨_, .finite hm (canonical_of_unpack hu).1⟩)

theorem worth_le_of_approximates {f : UnpackedFloat → UnpackedFloat} {g : ℝ → ℝ} (hg : Monotone g)
    (hnan : f .notANumber = .notANumber) (hinf : ∀ s, f (.infinity s) = .infinity s)
    (hfin : ∀ u a, Measures u a → Approximates (g a) (worth (repacked (f u)))) {x y : Float}
    (h : value x ≤ value y) :
    worth (repacked (f x.toModel.unpack)) ≤ worth (repacked (f y.toModel.unpack)) := by
  unfold value at h
  rcases unpack_cases x with hx | ⟨s, hx⟩ | ⟨a, hx⟩
  · rw [hx, hnan]
    exact bot_le
  · rw [hx] at h ⊢
    cases s with
    | negative =>
        rw [hinf]
        exact bot_le
    | positive =>
        rcases unpack_cases y with hy | ⟨t, hy⟩ | ⟨b, hy⟩
        · rw [hy] at h
          exact absurd h (not_le.2 bot_lt_top)
        · rw [hy] at h ⊢
          cases t with
          | negative => exact absurd h (not_le.2 bot_lt_top)
          | positive => exact le_rfl
        · rw [hy.worth_eq] at h
          exact absurd h (not_le.2 (EReal.coe_lt_top b))
  · rw [hx.worth_eq] at h
    rcases unpack_cases y with hy | ⟨t, hy⟩ | ⟨b, hy⟩
    · rw [hy] at h
      exact absurd h (not_le.2 (EReal.bot_lt_coe a))
    · rw [hy] at h ⊢
      cases t with
      | negative => exact absurd h (not_le.2 (EReal.bot_lt_coe a))
      | positive =>
          rw [hinf, repacked_infinity]
          exact le_top
    · rw [hy.worth_eq, EReal.coe_le_coe_iff] at h
      exact (hfin _ a hx).mono (hfin _ b hy) (hg h)

theorem sub_infinity {u : UnpackedFloat} {a : ℝ} (hu : Measures u a) (s : Sign) :
    UnpackedFloat.sub Format.binary64 u (.infinity s) = .infinity (-s) := by
  cases hu <;> rfl

theorem worth_sub_positive_infinity (x : Float) :
    worth (repacked (UnpackedFloat.sub Format.binary64 x.toModel.unpack (.infinity .positive))) =
      ⊥ := by
  have h := unpack_cases x
  generalize x.toModel.unpack = u at h ⊢
  rcases h with rfl | ⟨s, rfl⟩ | ⟨a, hu⟩
  · rfl
  · cases s <;> rfl
  · rw [sub_infinity hu]
    rfl

theorem worth_sub_negative_infinity (x : Float) :
    worth (repacked (UnpackedFloat.sub Format.binary64 x.toModel.unpack (.infinity .negative))) =
      if value x = ⊥ then ⊥ else ⊤ := by
  have h := unpack_cases x
  unfold value
  generalize x.toModel.unpack = u at h ⊢
  rcases h with rfl | ⟨s, rfl⟩ | ⟨a, hu⟩
  · rw [if_pos (show worth .notANumber = ⊥ from rfl)]
    rfl
  · cases s with
    | negative =>
        rw [if_pos (show worth (.infinity .negative) = ⊥ from rfl)]
        rfl
    | positive =>
        rw [if_neg (show worth (.infinity .positive) ≠ ⊥ from top_ne_bot)]
        rfl
  · rw [sub_infinity hu, hu.worth_eq, if_neg (EReal.coe_ne_bot a)]
    rfl

theorem value_sub_le {x y : Float} (h : value x ≤ value y) (t : Float) :
    value (x - t) ≤ value (y - t) := by
  have ht := unpack_cases t
  rw [value_sub, value_sub]
  generalize t.toModel.unpack = w at ht ⊢
  rcases ht with rfl | ⟨s, rfl⟩ | ⟨c, ht⟩
  · have hnan (u : UnpackedFloat) :
        UnpackedFloat.sub Format.binary64 u .notANumber = .notANumber := by
      cases u <;> rfl
    rw [hnan, hnan]
  · cases s with
    | positive =>
        rw [worth_sub_positive_infinity]
        exact bot_le
    | negative =>
        rw [worth_sub_negative_infinity, worth_sub_negative_infinity]
        split
        · exact bot_le
        · next hx =>
            have hy : value y ≠ ⊥ := fun hy => hx (le_bot_iff.1 (hy ▸ h))
            rw [if_neg hy]
  · refine worth_le_of_approximates (f := fun u => UnpackedFloat.sub Format.binary64 u w)
      (g := fun a => a - c) (fun _ _ h => sub_le_sub_right h c) ?_ ?_ ?_ h
    · cases ht <;> rfl
    · intro s
      cases ht <;> rfl
    · intro u a hu
      exact approximates_sub hu ht

theorem value_mul_le {c : Float} {n : Nat} {k : Int} {hn : 0 < n}
    (hc : c.toModel.unpack = .finite .positive n k hn) {x y : Float} (h : value x ≤ value y) :
    value (x * c) ≤ value (y * c) := by
  have hpos := magnitude_pos hn k
  have hfactor : Measures c.toModel.unpack (magnitude n k) :=
    hc ▸ .finite hn (canonical_of_unpack hc).1
  rw [value_mul, value_mul]
  refine worth_le_of_approximates
    (f := fun u => UnpackedFloat.mul Format.binary64 u c.toModel.unpack)
    (g := fun a => a * magnitude n k)
    (fun _ _ h => mul_le_mul_of_nonneg_right h hpos.le) ?_ ?_ ?_ h
  · rw [hc]
    rfl
  · intro s
    rw [hc]
    cases s <;> rfl
  · intro u a hu
    exact approximates_mul hu hfactor

theorem unpack_thousand : (1000.0 : Float).toModel.unpack =
    .finite .positive 8796093022208000 (-43) (by norm_num) := by
  rfl

theorem sign_mul_comm (s t : Sign) : s * t = t * s := by
  cases s <;> cases t <;> rfl

theorem mul_comm_unpacked (u v : UnpackedFloat) :
    UnpackedFloat.mul Format.binary64 u v = UnpackedFloat.mul Format.binary64 v u := by
  cases u <;> cases v <;>
    simp only [UnpackedFloat.mul, sign_mul_comm, Nat.mul_comm, Int.add_comm]

theorem value_mul_comm (x y : Float) : value (x * y) = value (y * x) := by
  rw [value_mul, value_mul, mul_comm_unpacked]

end Switchboard.Number
