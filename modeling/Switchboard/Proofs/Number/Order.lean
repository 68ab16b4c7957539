import Switchboard.Number.Basic
import Switchboard.Proofs.Number.Conversion

namespace Switchboard.Number

def Ordered : Number → Prop
  | .whole _ => True
  | .real x => IsNumber x

noncomputable def rank : Number → EReal
  | .whole n => (n : ℝ)
  | .real x => value x

theorem compareInt_ne_gt_iff (b : Binary) (n : Int) :
    (b.compareInt n != .gt) = true ↔ b.real ≤ n := by
  have hpos : (0 : ℝ) < power 2 (-b.exponent) := by
    unfold power
    exact_mod_cast Nat.two_pow_pos _
  have hcast : (b.compareInt n != .gt) = true ↔
      b.signed * (power 2 b.exponent : Int) ≤ n * (power 2 (-b.exponent) : Int) := by
    simp [Binary.compareInt, compare_gt_iff_gt]
  rw [hcast, Binary.real, zpow_eq_power_div, ← mul_div_assoc, div_le_iff₀ hpos]
  exact_mod_cast Iff.rfl

theorem real_le_whole_iff {x : Float} (hx : IsNumber x) (n : Int) :
    le (.real x) (.whole n) = true ↔ value x ≤ (n : ℝ) := by
  have hzero : (0.0 : Float).toModel.unpack = .zero .positive := by rfl
  cases hb : Binary.ofFloat? x with
  | some b =>
      simp only [le, hb]
      rw [compareInt_ne_gt_iff, value_of_ofFloat? hb, EReal.coe_le_coe_iff]
  | none =>
      simp only [le, hb]
      rw [ofFloat?_eq] at hb
      cases hu : x.toModel.unpack with
      | notANumber => exact absurd hu hx
      | zero s => simp [hu] at hb
      | finite s m e hm => simp [hu] at hb
      | infinity s => cases s <;> simp [lt_iff, IsNumber, value, hu, worth, unbounded, hzero]

theorem le_iff_rank {a b : Number} (ha : a.Ordered) (hb : b.Ordered) :
    a.le b = true ↔ a.rank ≤ b.rank := by
  cases a with
  | whole m =>
      cases b with
      | whole n =>
          rw [le, decide_eq_true_iff, rank, rank, EReal.coe_le_coe_iff, Int.cast_le]
      | real y => exact leFloat_iff m y
  | real x =>
      cases b with
      | whole n => exact real_le_whole_iff ha n
      | real y =>
          rw [le, decide_eq_true_iff, le_iff]
          exact ⟨fun h => h.2.2, fun h => ⟨ha, hb, h⟩⟩

theorem pairwise_sorted {l : List Number} (h : ∀ a ∈ l, a.Ordered) :
    (l.mergeSort le).Pairwise fun a b => a.rank ≤ b.rank := by
  classical
  have hmap : (l.mergeSort le).map rank = (l.map rank).mergeSort (· ≤ ·) := by
    refine List.map_mergeSort fun a ha b hb => ?_
    rw [Bool.eq_iff_iff, le_iff_rank (h a ha) (h b hb), decide_eq_true_iff]
  have hsorted : ((l.map rank).mergeSort (· ≤ ·)).Pairwise (· ≤ ·) := List.pairwise_mergeSort' _ _
  rw [← hmap, List.pairwise_map] at hsorted
  exact hsorted

end Switchboard.Number
