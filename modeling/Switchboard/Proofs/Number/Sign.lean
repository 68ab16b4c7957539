import Switchboard.Proofs.Number.Root

namespace Switchboard.Number

variable {x y : Float} {p q : Prop}

theorem le_iff_of_value {a : ℝ} (hx : value x = a) : x ≤ y ↔ (a : EReal) ≤ value y := by
  rw [le_iff, hx]
  refine ⟨fun h => h.2.2, fun h => ⟨?_, ?_, h⟩⟩
  · exact isNumber_of_ne_bot (hx ▸ EReal.coe_ne_bot a)
  · exact isNumber_of_ne_bot (ne_bot_of_le_ne_bot (EReal.coe_ne_bot a) h)

theorem zero_le_iff : 0.0 ≤ x ↔ ((0 : ℝ) : EReal) ≤ value x := le_iff_of_value value_zero

structure Marks (x : Float) (p : Prop) : Prop where
  nonneg : 0.0 ≤ x
  pos : 0.0 < x ↔ p

namespace Marks

instance [Decidable p] : Decidable (Marks x p) :=
  decidable_of_iff (0.0 ≤ x ∧ (0.0 < x ↔ p)) ⟨fun h => ⟨h.1, h.2⟩, fun h => ⟨h.nonneg, h.pos⟩⟩

theorem congr (h : Marks x p) (hpq : p ↔ q) : Marks x q := ⟨h.nonneg, h.pos.trans hpq⟩

theorem value_eq_zero (h : Marks x p) (hp : ¬ p) : value x = (0 : ℝ) :=
  le_antisymm (not_lt.1 fun hlt => hp (h.pos.1 (zero_lt_iff.2 hlt))) (zero_le_iff.1 h.nonneg)

theorem zero : Marks 0.0 False :=
  ⟨zero_le_iff.2 value_zero.ge, iff_false_intro fun h => (value_zero ▸ zero_lt_iff.1 h).false⟩

theorem of_zero_lt (h : 0.0 < x) : Marks x True :=
  ⟨zero_le_iff.2 (zero_lt_iff.1 h).le, iff_true_intro h⟩

theorem beq_zero (h : Marks x p) : (x == 0.0) = false ↔ p := by
  have hnumber : IsNumber x := ((le_iff 0.0 x).1 h.nonneg).2.1
  rw [← h.pos, zero_lt_iff, ← Bool.not_eq_true, beq_zero_iff hnumber]
  exact ⟨fun hne => (zero_le_iff.1 h.nonneg).lt_of_ne' hne, fun hlt heq => (heq ▸ hlt).false⟩

theorem add (hx : Marks x p) (hy : Marks y q) : Marks (x + y) (p ∨ q) := by
  have hx0 := zero_le_iff.1 hx.nonneg
  have hy0 := zero_le_iff.1 hy.nonneg
  obtain ⟨hxle, hyle⟩ := le_value_add hx0 hy0
  refine ⟨zero_le_iff.2 (hx0.trans hxle), ⟨fun h => ?_, fun h => ?_⟩⟩
  · by_contra hpq
    obtain ⟨hp, hq⟩ := not_or.1 hpq
    have hzero := value_add_zero (hx.value_eq_zero hp) (hy.value_eq_zero hq)
    exact (hzero ▸ zero_lt_iff.1 h).false
  · rcases h with hp | hq
    · exact zero_lt_iff.2 ((zero_lt_iff.1 (hx.pos.2 hp)).trans_le hxle)
    · exact zero_lt_iff.2 ((zero_lt_iff.1 (hy.pos.2 hq)).trans_le hyle)

theorem of_approximates {a : ℝ} (h : Approximates a (value x)) (ha : 0 ≤ a)
    (hleast : 0 < a → (2 : ℝ) ^ (-1074 : Int) ≤ a) : Marks x (0 < a) := by
  refine ⟨zero_le_iff.2 (approximates_nought.mono h ha), ?_⟩
  rw [zero_lt_iff]
  constructor
  · intro hlt
    refine ha.lt_of_ne' fun hzero => ?_
    rw [hzero] at h
    exact (approximates_nought.unique h ▸ hlt).false
  · intro hpos
    have hpower : (0 : ℝ) < 2 ^ (-1074 : Int) := by positivity
    exact (EReal.coe_lt_coe_iff.2 hpower).trans_le (approximates_least.mono h (hleast hpos))

theorem sqrt (hx : Marks x p) : Marks x.sqrt p := by
  rcases top_or_real (zero_le_iff.1 hx.nonneg) with htop | ⟨a, ha, hxa⟩
  · have hroot : (0.0 : Float) < x.sqrt :=
      zero_lt_iff.2 (value_sqrt_of_top htop ▸ EReal.coe_lt_top 0)
    have hp := hx.pos.1 (zero_lt_iff.2 (htop ▸ EReal.coe_lt_top 0))
    exact (of_zero_lt hroot).congr (iff_of_true trivial hp)
  · have hroot := of_approximates (approximates_sqrt_of_value hxa ha) a.sqrt_nonneg
      fun h => least_le_sqrt hxa (Real.sqrt_pos.1 h)
    refine hroot.congr ?_
    rw [Real.sqrt_pos, ← hx.pos, zero_lt_iff, hxa, EReal.coe_lt_coe_iff]

theorem ofNat (n : Nat) : Marks (Float.ofNat n) (0 < n) := by
  have hleast : (2 : ℝ) ^ (-1074 : Int) ≤ 1 := zpow_le_one_of_nonpos₀ one_le_two (by norm_num)
  have h := of_approximates (approximates_ofNat n) n.cast_nonneg
    fun h => hleast.trans (by exact_mod_cast h)
  exact h.congr Nat.cast_pos

end Marks

def Multiplies (x y : Float) : Prop := 0.0 ≤ x → 0.0 ≤ y → Marks (x * y) (0.0 < x ∧ 0.0 < y)

instance : Decidable (Multiplies x y) := inferInstanceAs (Decidable (_ → _ → Marks _ _))

theorem Multiplies.marks (h : Multiplies x y) (hx : Marks x p) (hy : Marks y q) :
    Marks (x * y) (p ∧ q) :=
  (h hx.nonneg hy.nonneg).congr (and_congr hx.pos hy.pos)

end Switchboard.Number
