import Switchboard.Proofs.Number.Sign

namespace Switchboard.Number

variable {x y : Float} {p q : Prop} {a : ℝ} {m n : Nat}

def Exact (a : ℝ) : Prop := Approximates a (a : EReal)

theorem exact_natCast_mul_pow {j : Nat} (hj : j < 2 ^ 53) (hn : n ≤ 971) : Exact (j * 2 ^ n) := by
  have h := approximates_of_short (z := j) (e := n) (by omega) (by omega) (by omega)
  rw [zpow_natCast] at h
  exact_mod_cast h

theorem exact_pow (hn : n ≤ 971) : Exact (2 ^ n) := by
  have h := exact_natCast_mul_pow (j := 1) (by norm_num) hn
  rwa [Nat.cast_one, one_mul] at h

theorem exact_of_value (h : value x = a) : Exact a := by
  rw [Exact, ← h]
  exact approximates_of_value h

theorem exact_one : Exact 1 := by simpa using exact_pow (n := 0) (by norm_num)

theorem exact_inv_pow (hn : n ≤ 971) : Exact (2 ^ n)⁻¹ := by
  have h := approximates_of_short (z := 1) (e := -n) (by omega) (by omega) (by omega)
  rwa [Int.cast_one, one_mul, zpow_neg, zpow_natCast] at h

theorem exact_intCast {q : Int} (hq : q.natAbs < 2 ^ 53) : Exact q := by
  simpa [Exact] using approximates_of_short (e := 0) hq (by norm_num) (by norm_num)

theorem exact_natCast_sub_inv_pow {q : Nat} (hn : n ≤ 971) (hq : q * 2 ^ n ≤ 2 ^ 53) :
    Exact (q - (2 ^ n)⁻¹) := by
  have h := approximates_of_short (z := (q * 2 ^ n : Nat) - 1) (e := -n) (by omega) (by omega)
    (by omega)
  have hvalue : (((q * 2 ^ n : Nat) - 1 : Int) : ℝ) * 2 ^ (-n : Int) = q - (2 ^ n)⁻¹ := by
    rw [zpow_neg, zpow_natCast]
    push_cast
    field_simp
  rwa [hvalue] at h

theorem exists_value_between {lo hi : ℝ} (h : Approximates a (value x)) (hlo : Exact lo)
    (hhi : Exact hi) (hlow : lo ≤ a) (hhigh : a ≤ hi) :
    ∃ b : ℝ, value x = b ∧ lo ≤ b ∧ b ≤ hi := by
  have hl := hlo.mono h hlow
  have hh := h.mono hhi hhigh
  have hreal := EReal.coe_toReal (ne_top_of_le_ne_top (EReal.coe_ne_top hi) hh)
    (ne_bot_of_le_ne_bot (EReal.coe_ne_bot lo) hl)
  rw [← hreal, EReal.coe_le_coe_iff] at hl hh
  exact ⟨_, hreal.symm, hl, hh⟩

theorem value_ofNat {j : Nat} (hj : j < 2 ^ 53) : value (Float.ofNat j) = (j : ℝ) := by
  have hexact : Exact j := by simpa using exact_natCast_mul_pow (n := 0) hj (by norm_num)
  exact (approximates_ofNat j).unique hexact

theorem one_le_ofNat_div {j k : Nat} (hj : 0 < j) (hjk : j ≤ k) (hk : k ≤ 2 ^ 1023) :
    1.0 ≤ Float.ofNat k / Float.ofNat j := by
  obtain ⟨a, ha⟩ := (approximates_ofNat k).exists_real hk
  obtain ⟨b, hb⟩ := (approximates_ofNat j).exists_real (hjk.trans hk)
  have hleast : 1 ≤ b := by
    have h := exact_one.mono (approximates_ofNat j) (by exact_mod_cast hj)
    rwa [hb, EReal.coe_le_coe_iff] at h
  have hle : b ≤ a := by
    have h := (approximates_ofNat j).mono (approximates_ofNat k) (by exact_mod_cast hjk)
    rwa [ha, hb, EReal.coe_le_coe_iff] at h
  have hpos : 0 < b := zero_lt_one.trans_le hleast
  have hquotient := approximates_div_of_value ha hb hpos.ne'
  rw [le_iff_of_value value_one]
  exact exact_one.mono hquotient ((one_le_div hpos).2 hle)

theorem short_lt {z e : Int} (hz : z.natAbs < 2 ^ 53) : (z * 2 ^ e : ℝ) < 2 ^ (53 + e) := by
  have hless : (z : ℝ) < 2 ^ (53 : Int) := by
    have : z < 2 ^ 53 := by omega
    exact_mod_cast this
  rw [zpow_add₀ two_ne_zero]
  exact mul_lt_mul_of_pos_right hless (by positivity)

theorem lt_of_value (hx : value x = a) : a < 2 ^ (1024 : Int) := by
  obtain ⟨z, e, hz, -, he, rfl⟩ := exists_short_of_value hx
  exact (short_lt hz).trans_le (zpow_le_zpow_right₀ one_le_two (by omega))

/-- Beyond one the doubles are the multiples of a lattice, up to the next power of two. -/
theorem one_add_le_of_value (hx : value x = a) (ha : 1 < a) : 1 + (2 ^ 52)⁻¹ ≤ a := by
  obtain ⟨z, e, hz, -, -, rfl⟩ := exists_short_of_value hx
  have hexponent : 0 < 53 + e := (one_lt_zpow_iff_right₀ one_lt_two).1 (ha.trans (short_lt hz))
  obtain ⟨k, hk⟩ := Int.eq_ofNat_of_zero_le (by omega : 0 ≤ 52 + e)
  have hsplit : (z * 2 ^ e : ℝ) = (z * 2 ^ k : Int) * 2 ^ (-52 : Int) := by
    rw [show e = k + -52 by omega, zpow_add₀ two_ne_zero, zpow_natCast]
    push_cast
    ring
  have hpos : (0 : ℝ) < 2 ^ (-52 : Int) := by positivity
  have hone : ((2 ^ 52 : Int) : ℝ) * 2 ^ (-52 : Int) = 1 := by norm_num
  rw [hsplit] at ha ⊢
  rw [← hone, mul_lt_mul_iff_left₀ hpos, Int.cast_lt] at ha
  calc (1 : ℝ) + (2 ^ 52)⁻¹ = ((2 ^ 52 + 1 : Int) : ℝ) * 2 ^ (-52 : Int) := by norm_num
    _ ≤ _ := mul_le_mul_of_nonneg_right (Int.cast_le.2 ha) hpos.le

structure Near (y : Float) (a : ℝ) : Prop where
  exists_value : ∃ b : ℝ, value y = b ∧ a / 2 ≤ b ∧ b ≤ 2 * a

theorem near_zero (hy : value y = (0 : ℝ)) : Near y 0 := ⟨0, hy, by norm_num, by norm_num⟩

theorem Near.value_eq_zero (h : Near y 0) : value y = (0 : ℝ) := by
  obtain ⟨b, hb, hlow, hhigh⟩ := h.exists_value
  rw [hb, le_antisymm (by linarith : b ≤ 0) (by linarith)]

theorem exists_near (hlow : (2 : ℝ) ^ (-1000 : Int) ≤ a) (hhigh : a ≤ 2 ^ (900 : Int)) :
    ∃ y, Near y a := by
  have hpos : 0 < a := lt_of_lt_of_le (by positivity) hlow
  -- the greatest power of two that is not above it
  obtain ⟨k, hk, hk'⟩ := exists_mem_Ico_zpow hpos one_lt_two
  have hleast : -1000 < k + 1 := (zpow_lt_zpow_iff_right₀ one_lt_two).1 (hlow.trans_lt hk')
  have hgreatest : k ≤ 900 := (zpow_le_zpow_iff_right₀ one_lt_two).1 (hk.trans hhigh)
  have hvalue := value_toFloat_of_short (z := 1) (e := k) (by norm_num) (by omega) (by omega)
  rw [Int.cast_one, one_mul] at hvalue
  rw [zpow_add_one₀ two_ne_zero] at hk'
  exact ⟨_, _, hvalue, by linarith, by linarith⟩

theorem exists_nearby {p : ℝ → Prop} {f : ℝ → ℝ}
    (h : ∀ (x : Float) (a : ℝ), value x = a → p a → ∃ y, Near y (f a)) :
    ∃ g : Float → Float, ∀ (x : Float) (a : ℝ), value x = a → p a → Near (g x) (f a) := by
  have hnear (x : Float) : ∃ y, ∀ a : ℝ, value x = a → p a → Near y (f a) := by
    by_cases hx : ∃ a : ℝ, value x = a ∧ p a
    · obtain ⟨a, ha, hp⟩ := hx
      obtain ⟨y, hy⟩ := h x a ha hp
      refine ⟨y, fun b hb _ => ?_⟩
      obtain rfl : a = b := EReal.coe_injective (ha.symm.trans hb)
      exact hy
    · exact ⟨x, fun a ha hp => absurd ⟨a, ha, hp⟩ hx⟩
  choose g hg using hnear
  exact ⟨g, hg⟩

structure Between (lo hi : ℝ) (x : Float) (p : Prop) : Prop where
  zero : ¬ p → value x = (0 : ℝ)
  within : p → ∃ a : ℝ, value x = a ∧ lo ≤ a ∧ a ≤ hi

namespace Between

variable {lo hi hi' : ℝ}

theorem congr (h : Between lo hi x p) (hpq : p ↔ q) : Between lo hi x q :=
  ⟨fun hq => h.zero (fun hp => hq (hpq.1 hp)), fun hq => h.within (hpq.2 hq)⟩

theorem exists_value (h : Between lo hi x p) (hlo : 0 < lo) (hhi : 0 ≤ hi) :
    ∃ a : ℝ, value x = a ∧ 0 ≤ a ∧ a ≤ hi ∧ (p → lo ≤ a) ∧ (0 < a ↔ p) := by
  by_cases hp : p
  · obtain ⟨a, ha, hlow, hhigh⟩ := h.within hp
    have hpos := hlo.trans_le hlow
    exact ⟨a, ha, hpos.le, hhigh, fun _ => hlow, iff_of_true hpos hp⟩
  · exact ⟨0, h.zero hp, le_rfl, hhi, fun h => absurd h hp, iff_of_false (lt_irrefl 0) hp⟩

theorem marks (h : Between lo hi x p) (hlo : 0 < lo) (hhi : 0 ≤ hi) : Marks x p := by
  obtain ⟨a, ha, hnonneg, -, -, hpos⟩ := h.exists_value hlo hhi
  refine ⟨zero_le_iff.2 ?_, ?_⟩
  · rw [ha]
    exact EReal.coe_le_coe_iff.2 hnonneg
  · rw [zero_lt_iff, ha, EReal.coe_lt_coe_iff, hpos]

theorem add (hx : Between lo hi x p) (hy : Between lo hi' y q) (hlo : 0 < lo) (hhi : 0 ≤ hi)
    (hhi' : 0 ≤ hi') (hexact : Exact lo) (hexact' : Exact (hi + hi')) :
    Between lo (hi + hi') (x + y) (p ∨ q) := by
  constructor
  · intro hpq
    obtain ⟨hp, hq⟩ := not_or.1 hpq
    exact value_add_zero (hx.zero hp) (hy.zero hq)
  · intro hpq
    obtain ⟨a, ha, ha0, hhigh, hlow, -⟩ := hx.exists_value hlo hhi
    obtain ⟨b, hb, hb0, hhigh', hlow', -⟩ := hy.exists_value hlo hhi'
    refine exists_value_between (approximates_add_of_value ha hb) hexact hexact' ?_
      (add_le_add hhigh hhigh')
    rcases hpq with hp | hq
    · exact (hlow hp).trans (le_add_of_nonneg_right hb0)
    · exact (hlow' hq).trans (le_add_of_nonneg_left ha0)

end Between

structure Sized (n : Nat) (x : Float) (p : Prop) : Prop extends Between (2 ^ n)⁻¹ (2 ^ n) x p

namespace Sized

theorem congr (h : Sized n x p) (hpq : p ↔ q) : Sized n x q := ⟨h.toBetween.congr hpq⟩

theorem exists_value (h : Sized n x p) : ∃ a : ℝ, value x = a := by
  obtain ⟨a, ha, -⟩ := h.toBetween.exists_value (by positivity) (by positivity)
  exact ⟨a, ha⟩

theorem marks (h : Sized n x p) : Marks x p :=
  h.toBetween.marks (by positivity) (by positivity)

theorem mul (hx : Sized m x p) (hy : Sized n y q) (hmn : m + n ≤ 971) :
    Sized (m + n) (x * y) (p ∧ q) := by
  refine ⟨?_, ?_⟩
  · intro hpq
    obtain ⟨a, ha⟩ := hx.exists_value
    obtain ⟨b, hb⟩ := hy.exists_value
    have h : Approximates 0 (value (x * y)) := by
      rcases not_and_or.1 hpq with hp | hq
      · simpa using approximates_mul_of_value (hx.zero hp) hb
      · simpa using approximates_mul_of_value ha (hy.zero hq)
    exact h.unique approximates_nought
  · rintro ⟨hp, hq⟩
    obtain ⟨a, ha, hlow, hhigh⟩ := hx.within hp
    obtain ⟨b, hb, hlow', hhigh'⟩ := hy.within hq
    refine exists_value_between (approximates_mul_of_value ha hb) (exact_inv_pow hmn)
      (exact_pow hmn) ?_ ?_
    · rw [pow_add, mul_inv]
      exact mul_le_mul hlow hlow' (by positivity) (le_trans (by positivity) hlow)
    · rw [pow_add]
      exact mul_le_mul hhigh hhigh' (le_trans (by positivity) hlow') (by positivity)

theorem multiplies (hx : Sized m x p) (hy : Sized n y q) (hmn : m + n ≤ 971) : Multiplies x y :=
  fun _ _ => (hx.mul hy hmn).marks.congr (and_congr hx.marks.pos hy.marks.pos).symm

theorem div (hx : Sized m x p) (hy : Sized n y q) (hq : q) (hmn : m + n ≤ 971) :
    Sized (m + n) (x / y) p := by
  obtain ⟨b, hb, hlow', hhigh'⟩ := hy.within hq
  have hpos : 0 < b := lt_of_lt_of_le (by positivity) hlow'
  refine ⟨?_, ?_⟩
  · intro hp
    have h := approximates_div_of_value (hx.zero hp) hb hpos.ne'
    rw [zero_div] at h
    exact h.unique approximates_nought
  · intro hp
    obtain ⟨a, ha, hlow, hhigh⟩ := hx.within hp
    refine exists_value_between (approximates_div_of_value ha hb hpos.ne') (exact_inv_pow hmn)
      (exact_pow hmn) ?_ ?_
    · rw [pow_add, mul_inv, le_div_iff₀ hpos, mul_assoc]
      have hle : ((2 : ℝ) ^ n)⁻¹ * b ≤ 1 := (inv_mul_le_one₀ (by positivity)).2 hhigh'
      exact (mul_le_of_le_one_right (by positivity) hle).trans hlow
    · rw [pow_add, div_le_iff₀ hpos, mul_assoc]
      exact hhigh.trans (le_mul_of_one_le_right (by positivity)
        ((inv_le_iff_one_le_mul₀' (by positivity)).1 hlow'))

theorem sqrt (hx : Sized n x p) (hn : n ≤ 971) : Sized n x.sqrt p := by
  refine ⟨?_, ?_⟩
  · intro hp
    have h := approximates_sqrt_of_value (hx.zero hp) le_rfl
    rw [Real.sqrt_zero] at h
    exact h.unique approximates_nought
  · intro hp
    obtain ⟨a, ha, hlow, hhigh⟩ := hx.within hp
    have hpow : (1 : ℝ) ≤ 2 ^ n := one_le_pow₀ one_le_two
    have hinv : ((2 : ℝ) ^ n)⁻¹ ≤ 1 := inv_le_one_of_one_le₀ hpow
    refine exists_value_between (approximates_sqrt_of_value ha (le_trans (by positivity) hlow))
      (exact_inv_pow hn) (exact_pow hn) ?_ ?_
    · exact Real.le_sqrt_of_sq_le ((pow_le_of_le_one (by positivity) hinv two_ne_zero).trans hlow)
    · exact Real.sqrt_le_iff.2 ⟨by positivity, hhigh.trans (le_self_pow₀ hpow two_ne_zero)⟩

theorem ofNat {j : Nat} (hj : j < 2 ^ 53) : Sized 53 (Float.ofNat j) (0 < j) := by
  have hvalue := value_ofNat hj
  refine ⟨fun h => ?_, fun h => ⟨j, hvalue, ?_, ?_⟩⟩
  · rw [hvalue, Nat.eq_zero_of_not_pos h, Nat.cast_zero]
  · exact (inv_le_one_of_one_le₀ (one_le_pow₀ one_le_two)).trans (by exact_mod_cast h)
  · exact_mod_cast hj.le

theorem thousand : Sized 10 1000.0 True :=
  ⟨fun h => absurd trivial h, fun _ => ⟨1000, value_thousand, by norm_num, by norm_num⟩⟩

variable {α : Type} {f : α → Float} {P : α → Prop} {as : List α}

theorem gather (h : ∀ a ∈ as, Sized n (f a) (P a)) (hn : n ≤ 971) {j : Nat} {z : Float}
    (hlen : j + as.length < 2 ^ 53) (hz : Between (2 ^ n)⁻¹ (j * 2 ^ n) z q) :
    Between (2 ^ n)⁻¹ ((j + as.length : Nat) * 2 ^ n) ((as.map f).foldl (· + ·) z)
      (q ∨ ∃ a ∈ as, P a) := by
  induction as generalizing j z q with
  | nil => simpa using hz
  | cons a as ih =>
      obtain ⟨ha, has⟩ := List.forall_mem_cons.1 h
      rw [List.length_cons] at hlen
      have hexact : Exact (j * 2 ^ n + 2 ^ n) := by
        have := exact_natCast_mul_pow (j := j + 1) (by omega) hn
        rwa [Nat.cast_succ, add_one_mul] at this
      have hsum := hz.add ha.toBetween (by positivity) (by positivity) (by positivity)
        (exact_inv_pow hn) hexact
      rw [← add_one_mul, ← Nat.cast_succ] at hsum
      have hrest := ih has (j := j + 1) (by omega) hsum
      rw [List.length_cons, ← Nat.add_assoc, Nat.add_right_comm]
      refine hrest.congr ?_
      rw [or_assoc, List.exists_mem_cons_iff]

theorem total (h : ∀ a ∈ as, Sized n (f a) (P a)) (hn : n + 53 ≤ 971) (hlen : as.length < 2 ^ 53) :
    Sized (n + 53) ((as.map f).foldl (· + ·) 0.0) (∃ a ∈ as, P a) := by
  have hzero : Between (2 ^ n)⁻¹ ((0 : Nat) * 2 ^ n) 0.0 False := ⟨fun _ => value_zero, False.elim⟩
  have h := gather h (by omega) (by omega) hzero
  rw [false_or, Nat.zero_add] at h
  refine ⟨h.zero, fun hp => ?_⟩
  obtain ⟨a, ha, hlow, hhigh⟩ := h.within hp
  refine ⟨a, ha, le_trans ?_ hlow, hhigh.trans ?_⟩
  · exact inv_anti₀ (by positivity) (pow_le_pow_right₀ one_le_two (by omega))
  · rw [pow_add, mul_comm]
    exact mul_le_mul_of_nonneg_left (by exact_mod_cast hlen.le) (by positivity)

end Sized

end Switchboard.Number
