import Switchboard.Proofs.Number.Threshold

namespace Switchboard.Number

open Float.Model Float.Model.UnpackedFloat

theorem apply_neg (s : Sign) (n : Int) : (-s).apply n = -s.apply n := by
  cases s with
  | negative => exact (neg_neg n).symm
  | positive => rfl

theorem sign_neg_neg (s : Sign) : -(-s) = s := by
  cases s <;> rfl

theorem add_eq_sub_neg (u v : UnpackedFloat) :
    UnpackedFloat.add Format.binary64 u v = UnpackedFloat.sub Format.binary64 u v.neg := by
  cases u <;> cases v <;>
    simp only [UnpackedFloat.add, UnpackedFloat.sub, UnpackedFloat.neg, sign_neg_neg, apply_neg,
      sub_neg_eq_add]

theorem approximates_add {u v : UnpackedFloat} {a b : ℝ} (hu : Measures u a) (hv : Measures v b) :
    Approximates (a + b) (worth (repacked (UnpackedFloat.add Format.binary64 u v))) := by
  rw [add_eq_sub_neg, ← sub_neg_eq_add]
  exact approximates_sub hu hv.neg

theorem value_add (x y : Float) :
    value (x + y) =
      worth (repacked (UnpackedFloat.add Format.binary64 x.toModel.unpack y.toModel.unpack)) := rfl

variable {x y z : Float} {a b : ℝ}

theorem approximates_add_of_value (hx : value x = a) (hy : value y = b) :
    Approximates (a + b) (value (x + y)) := by
  rw [value_add]
  exact approximates_add (measures_of_value hx) (measures_of_value hy)

theorem value_add_le (hz : value z = a) (h : value x ≤ value y) :
    value (x + z) ≤ value (y + z) := by
  have hz := measures_of_value hz
  rw [value_add, value_add]
  generalize z.toModel.unpack = w at hz
  refine worth_le_of_approximates (f := fun u => UnpackedFloat.add Format.binary64 u w)
    (g := fun b => b + a) (fun _ _ h => add_le_add_left h a) ?_ ?_ ?_ h
  · cases hz <;> rfl
  · intro s
    cases hz <;> rfl
  · intro u b hu
    exact approximates_add hu hz

theorem unpack_of_value_top (h : value x = ⊤) : x.toModel.unpack = .infinity .positive := by
  rw [value] at h
  rcases unpack_cases x with hx | ⟨s, hx⟩ | ⟨a, hx⟩
  · rw [hx] at h
    exact absurd h bot_ne_top
  · rw [hx] at h ⊢
    cases s with
    | negative => exact absurd h bot_ne_top
    | positive => rfl
  · rw [hx.worth_eq] at h
    exact absurd h (EReal.coe_ne_top a)

theorem top_or_real (h : ((0 : ℝ) : EReal) ≤ value x) :
    value x = ⊤ ∨ ∃ a : ℝ, 0 ≤ a ∧ value x = a := by
  rcases eq_or_ne (value x) ⊤ with htop | htop
  · exact .inl htop
  · have hreal := EReal.coe_toReal htop (ne_bot_of_le_ne_bot (EReal.coe_ne_bot 0) h)
    exact .inr ⟨_, EReal.coe_le_coe_iff.1 (hreal.symm ▸ h), hreal.symm⟩

theorem value_add_top (hx : ((0 : ℝ) : EReal) ≤ value x) (hy : ((0 : ℝ) : EReal) ≤ value y)
    (h : value x = ⊤ ∨ value y = ⊤) : value (x + y) = ⊤ := by
  have hreal {u : UnpackedFloat} {a : ℝ} (hu : Measures u a) :
      UnpackedFloat.add Format.binary64 (.infinity .positive) u = .infinity .positive ∧
        UnpackedFloat.add Format.binary64 u (.infinity .positive) = .infinity .positive := by
    cases hu <;> exact ⟨rfl, rfl⟩
  have hinfinite : worth (repacked (.infinity .positive)) = ⊤ := rfl
  rw [value_add]
  rcases top_or_real hx with hxt | ⟨a, -, hxa⟩
  · rw [unpack_of_value_top hxt]
    rcases top_or_real hy with hyt | ⟨b, -, hyb⟩
    · rw [unpack_of_value_top hyt]
      rfl
    · rw [(hreal (measures_of_value hyb)).1, hinfinite]
  · have hyt := h.resolve_left (hxa ▸ EReal.coe_ne_top a)
    rw [unpack_of_value_top hyt, (hreal (measures_of_value hxa)).2, hinfinite]

theorem le_value_add (hx : ((0 : ℝ) : EReal) ≤ value x) (hy : ((0 : ℝ) : EReal) ≤ value y) :
    value x ≤ value (x + y) ∧ value y ≤ value (x + y) := by
  by_cases htop : value x = ⊤ ∨ value y = ⊤
  · rw [value_add_top hx hy htop]
    exact ⟨le_top, le_top⟩
  · obtain ⟨hxt, hyt⟩ := not_or.1 htop
    obtain ⟨a, ha, hxa⟩ := (top_or_real hx).resolve_left hxt
    obtain ⟨b, hb, hyb⟩ := (top_or_real hy).resolve_left hyt
    have hsum := approximates_add_of_value hxa hyb
    exact ⟨(approximates_of_value hxa).mono hsum (le_add_of_nonneg_right hb),
      (approximates_of_value hyb).mono hsum (le_add_of_nonneg_left ha)⟩

theorem value_add_zero (hx : value x = (0 : ℝ)) (hy : value y = (0 : ℝ)) :
    value (x + y) = (0 : ℝ) := by
  have hsum := approximates_add_of_value hx hy
  rw [add_zero] at hsum
  exact hsum.unique approximates_nought

theorem value_half : value 0.5 = (1 / 2 : ℝ) := by
  have hunpack : (0.5 : Float).toModel.unpack = .finite .positive (2 ^ 52) (-53) (by norm_num) := by
    rfl
  rw [value, hunpack, worth]
  norm_num [signed, magnitude]

/-- Half of one is less than half of the last place of the greatest double. -/
theorem value_add_half_ne_top (hx : value x = a) : value (x + 0.5) ≠ ⊤ := by
  refine (approximates_add_of_value hx value_half).ne_top ?_
  obtain ⟨z, e, hz, -, he, rfl⟩ := exists_short_of_value hx
  have hpos : (0 : ℝ) < 2 ^ e := by positivity
  have hz : (z : ℝ) ≤ 2 ^ 53 - 1 := by exact_mod_cast (by omega : z ≤ 2 ^ 53 - 1)
  have hstep : (2 : ℝ) ^ e ≤ 2 ^ (971 : Int) := zpow_le_zpow_right₀ one_le_two he
  have hone : (1 : ℝ) ≤ 2 ^ (970 : Int) := one_le_zpow₀ one_le_two (by norm_num)
  have hgreatest : (z : ℝ) * 2 ^ e ≤ (2 ^ 53 - 1) * 2 ^ (971 : Int) :=
    mul_le_mul hz hstep hpos.le (by norm_num)
  rw [two_zpow_top] at hgreatest
  generalize (2 : ℝ) ^ (970 : Int) = p at hone hgreatest ⊢
  linarith

end Switchboard.Number
