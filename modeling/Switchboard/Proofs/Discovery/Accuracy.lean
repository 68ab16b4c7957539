import Switchboard.Proofs.Discovery.Matching
import Switchboard.Proofs.Discovery.Stability
import Switchboard.Proofs.Number.Bounds

namespace Switchboard.Discovery.Index

open Number

section Quotient

variable {total n : Nat}

theorem exists_value_quotient (htotal : total ≤ 2 ^ 52) (h0 : 0 < n) (hn : n < total) :
    ∃ a : ℝ, value (Float.ofNat total / Float.ofNat n) = a ∧ 1 + (2 ^ 52)⁻¹ ≤ a ∧ a ≤ 2 ^ 52 := by
  have hpos : (0 : ℝ) < n := by exact_mod_cast h0
  have htotal' : (total : ℝ) ≤ 2 ^ 52 := by exact_mod_cast htotal
  have hone : (1 : ℝ) ≤ n := by exact_mod_cast h0
  have hstep : (n : ℝ) + 1 ≤ total := by exact_mod_cast hn
  have hquotient := approximates_div_of_value (value_ofNat (j := total) (by omega))
    (value_ofNat (j := n) (by omega)) hpos.ne'
  have hlow : Exact (1 + (2 ^ 52)⁻¹ : ℝ) := by
    have h := approximates_of_short (z := 2 ^ 52 + 1) (e := -52) (by norm_num) (by norm_num)
      (by norm_num)
    have hvalue : ((2 ^ 52 + 1 : Int) : ℝ) * 2 ^ (-52 : Int) = 1 + (2 ^ 52)⁻¹ := by norm_num
    rwa [hvalue] at h
  refine exists_value_between hquotient hlow (exact_pow (by norm_num)) ?_ ?_
  · rw [le_div_iff₀ hpos, add_mul, one_mul]
    have hsmall : ((2 : ℝ) ^ 52)⁻¹ * n ≤ 1 := by
      rw [inv_mul_le_one₀ (by positivity)]
      linarith
    linarith
  · exact (div_le_self (by positivity) hone).trans htotal'

theorem value_quotient_self (h0 : 0 < n) (hn : n ≤ 2 ^ 52) :
    value (Float.ofNat n / Float.ofNat n) = (1 : ℝ) := by
  have hne : (n : ℝ) ≠ 0 := by exact_mod_cast h0.ne'
  have hvalue := value_ofNat (j := n) (by omega)
  have hquotient := approximates_div_of_value hvalue hvalue hne
  rw [div_self hne] at hquotient
  exact hquotient.unique exact_one

end Quotient

theorem le_log {a : ℝ} (ha : 1 + (2 ^ 52)⁻¹ ≤ a) : (2 ^ 53)⁻¹ ≤ Real.log a := by
  have hpos : 0 < a := lt_of_lt_of_le (by positivity) ha
  have hinv : a⁻¹ ≤ 1 - (2 ^ 53)⁻¹ := by
    rw [inv_le_comm₀ hpos (by norm_num)]
    exact le_trans (by norm_num) ha
  exact (le_sub_comm.1 hinv).trans (Real.one_sub_inv_le_log_of_pos hpos)

/-- Logarithms and squares come out within a factor of two. -/
structure Accurate [Elementary] : Prop where
  log : ∀ (x : Float) (a : ℝ), value x = a → 1 ≤ a → Near (Elementary.log x) (Real.log a)
  square : ∀ (x : Float) (a : ℝ), value x = a → a = 0 ∨ (2 ^ 400)⁻¹ ≤ a ∧ a ≤ 2 ^ 400 →
    Near (Elementary.pow x 2.0) (a ^ 2)

theorem exists_near_log {x : Float} {a : ℝ} (hx : value x = a) (ha : 1 ≤ a) :
    ∃ y, Near y (Real.log a) := by
  rcases ha.eq_or_lt with rfl | hlt
  · exact ⟨0.0, Real.log_one ▸ near_zero value_zero⟩
  · have hpos : 0 < a := zero_lt_one.trans hlt
    have hmost : Real.log a ≤ 2 ^ (10 : Int) := by
      have htwo : Real.log 2 ≤ 1 := Real.log_two_lt_d9.le.trans (by norm_num)
      calc Real.log a ≤ Real.log (2 ^ (1024 : Int)) := Real.log_le_log hpos (lt_of_value hx).le
        _ = 2 ^ (10 : Int) * Real.log 2 := by rw [Real.log_zpow]; norm_num
        _ ≤ 2 ^ (10 : Int) := mul_le_of_le_one_right (by positivity) htwo
    refine exists_near ?_ (hmost.trans (zpow_le_zpow_right₀ one_le_two (by norm_num)))
    refine le_trans ?_ (le_log (one_add_le_of_value hx hlt))
    rw [← zpow_natCast, ← zpow_neg]
    exact zpow_le_zpow_right₀ one_le_two (by norm_num)

theorem exists_near_square {a : ℝ} (ha : a = 0 ∨ (2 ^ 400)⁻¹ ≤ a ∧ a ≤ 2 ^ 400) :
    ∃ y, Near y (a ^ 2) := by
  rcases ha with rfl | ⟨hlow, hhigh⟩
  · exact ⟨0.0, by simpa using near_zero value_zero⟩
  · have hpos : (0 : ℝ) ≤ (2 ^ 400)⁻¹ := by positivity
    refine exists_near ?_ ?_
    · refine le_trans ?_ (pow_le_pow_left₀ hpos hlow 2)
      rw [inv_pow, ← pow_mul, ← zpow_natCast, ← zpow_neg]
      exact zpow_le_zpow_right₀ one_le_two (by norm_num)
    · refine (pow_le_pow_left₀ (hpos.trans hlow) hhigh 2).trans ?_
      rw [← pow_mul, ← zpow_natCast]
      exact zpow_le_zpow_right₀ one_le_two (by norm_num)

theorem exists_accurate : ∃ e : Elementary, @Accurate e := by
  obtain ⟨log, hlog⟩ := exists_nearby fun _ _ hx ha => exists_near_log hx ha
  obtain ⟨square, hsquare⟩ := exists_nearby fun _ _ _ ha => exists_near_square ha
  exact ⟨⟨log, fun x _ => square x⟩, @Accurate.mk ⟨log, fun x _ => square x⟩ hlog hsquare⟩

/-- So few entries and tokens that their numbers are doubles. -/
structure Modest (es : List Entry) (query : String) : Prop where
  entries : es.length ≤ 2 ^ 52
  asked : (tokenize query).length < 2 ^ 53
  held : ∀ e ∈ es, e.tokens.length < 2 ^ 53

namespace Modest

variable {es : List Entry} {query : String} (hm : Modest es query)
include hm

theorem count_asked {q : String × Nat} (hq : q ∈ tally (tokenize query)) : q.2 < 2 ^ 53 :=
  (le_length_of_mem_tally hq).trans_lt hm.asked

variable {e : Entry} (he : e ∈ es)
include he

theorem count_held {c : String × Nat} (hc : c ∈ (Document.ofEntry e).counts) : c.2 < 2 ^ 53 :=
  (le_length_of_mem_tally hc).trans_lt (hm.held e he)

theorem occurrences (t : String) : occurrences (Document.ofEntry e).counts t < 2 ^ 53 := by
  rw [Document.ofEntry, occurrences_tally]
  exact List.count_le_length.trans_lt (hm.held e he)

end Modest

namespace Accurate

variable [Elementary] (h : Accurate)
include h

theorem rarity {total n : Nat} (htotal : total ≤ 2 ^ 52) (h0 : 0 < n) (hn : n ≤ total) :
    Sized 54 (rarity total n) (n < total) := by
  refine ⟨?_, ?_⟩
  · intro hall
    obtain rfl : total = n := Nat.le_antisymm (not_lt.1 hall) hn
    have hlog := h.log _ 1 (value_quotient_self h0 htotal) le_rfl
    rw [Real.log_one] at hlog
    exact hlog.value_eq_zero
  · intro hless
    obtain ⟨a, ha, hlow, hhigh⟩ := exists_value_quotient htotal h0 hless
    have hpos : 0 < a := lt_of_lt_of_le (by positivity) hlow
    obtain ⟨b, hb, hlog, hlog'⟩ := (h.log _ a ha (le_trans (by norm_num) hlow)).exists_value
    have hleast := le_log hlow
    have hmost := Real.log_le_sub_one_of_pos hpos
    refine ⟨b, hb, ?_, ?_⟩
    · norm_num at hleast ⊢
      linarith
    · norm_num at hhigh ⊢
      linarith

theorem power {n : Nat} {x : Float} {p : Prop} (hx : Sized n x p) (hn : n ≤ 400) :
    Sized (2 * n + 1) (Elementary.pow x 2.0) p := by
  have hwide : (2 : ℝ) ^ n ≤ 2 ^ 400 := pow_le_pow_right₀ one_le_two hn
  refine ⟨?_, ?_⟩
  · intro hp
    have hsquare := h.square x 0 (hx.zero hp) (.inl rfl)
    rw [zero_pow two_ne_zero] at hsquare
    exact hsquare.value_eq_zero
  · intro hp
    obtain ⟨a, ha, hlow, hhigh⟩ := hx.within hp
    have hpos : (0 : ℝ) ≤ (2 ^ n)⁻¹ := by positivity
    have hinv : ((2 : ℝ) ^ 400)⁻¹ ≤ (2 ^ n)⁻¹ := inv_anti₀ (by positivity) hwide
    obtain ⟨b, hb, hlow', hhigh'⟩ :=
      (h.square x a ha (.inr ⟨hinv.trans hlow, hhigh.trans hwide⟩)).exists_value
    have hsquare := pow_le_pow_left₀ hpos hlow 2
    have hsquare' := pow_le_pow_left₀ (hpos.trans hlow) hhigh 2
    have hpower : (2 : ℝ) ^ (2 * n + 1) = (2 ^ n) ^ 2 * 2 := by rw [pow_succ, mul_comm 2 n, pow_mul]
    refine ⟨b, hb, le_trans ?_ hlow', hhigh'.trans ?_⟩
    · rw [hpower, mul_inv, ← inv_pow, div_eq_mul_inv]
      exact mul_le_mul_of_nonneg_right hsquare (by norm_num)
    · rw [hpower, mul_comm]
      exact mul_le_mul_of_nonneg_right hsquare' (by norm_num)

section Search

variable {es : List Entry} {query : String} (hm : Modest es query)
include hm

theorem weight (t : String) : Sized 54 ((build es).weight t) (Distinguishes es t) := by
  rcases weight_cases es t with ⟨n, h0, hn, hw, hless⟩ | ⟨hw, hnone⟩
  · rw [hw]
    exact (h.rarity hm.entries h0 hn).congr hless
  · rw [hw]
    exact ⟨fun _ => value_zero, fun ht => absurd ht hnone⟩

theorem counted {n : Nat} (hn : n < 2 ^ 53) (t : String) :
    Sized 107 (Float.ofNat n * (build es).weight t) (0 < n ∧ Distinguishes es t) :=
  (Sized.ofNat hn).mul (h.weight hm t) (by norm_num)

theorem queryWeight {w : String × Float} (hw : w ∈ (build es).queryWeights query) :
    Sized 107 w.2 (Distinguishes es w.1) := by
  obtain ⟨⟨t, n⟩, hq, rfl⟩ := List.mem_map.1 hw
  exact (h.counted hm (hm.count_asked hq) t).congr (and_iff_right (pos_of_mem_tally hq))

theorem queryNorm : Sized 267 (queryNorm ((build es).queryWeights query))
    (∃ w ∈ (build es).queryWeights query, Distinguishes es w.1) := by
  have hlength : ((build es).queryWeights query).length < 2 ^ 53 := by
    rw [queryWeights, List.length_map]
    exact (length_tally_le _).trans_lt hm.asked
  refine (Sized.total (fun w hw => ?_) (by norm_num) hlength).sqrt (by norm_num)
  have hweight := h.queryWeight hm hw
  exact (hweight.mul hweight (by norm_num)).congr and_self_iff

variable {e : Entry} (he : e ∈ es)
include he

theorem documentNorm : Sized 268 ((build es).documentNorm (.ofEntry e))
    (∃ c ∈ (Document.ofEntry e).counts, Distinguishes es c.1) := by
  have hlength := (length_tally_le e.tokens).trans_lt (hm.held e he)
  refine (Sized.total (fun c hc => ?_) (by norm_num) hlength).sqrt (by norm_num)
  have hweight := h.counted hm (hm.count_held he hc) c.1
  exact (h.power hweight (by norm_num)).congr (and_iff_right (pos_of_mem_tally hc))

theorem met {w : String × Float} (hw : w ∈ (build es).queryWeights query) :
    Sized 160 (w.2 * Float.ofNat (occurrences (Document.ofEntry e).counts w.1))
      (Distinguishes es w.1 ∧ 0 < occurrences (Document.ofEntry e).counts w.1) :=
  (h.queryWeight hm hw).mul (.ofNat (hm.occurrences he w.1)) (by norm_num)

theorem dot : Sized 267 ((build es).dot ((build es).queryWeights query) (.ofEntry e))
    (∃ w ∈ (build es).queryWeights query,
      (Distinguishes es w.1 ∧ 0 < occurrences (Document.ofEntry e).counts w.1) ∧
        Distinguishes es w.1) := by
  have hlength : ((build es).queryWeights query).length < 2 ^ 53 := by
    rw [queryWeights, List.length_map]
    exact (length_tally_le _).trans_lt hm.asked
  refine Sized.total (fun w hw => ?_) (by norm_num) hlength
  exact (h.met hm he hw).mul (h.weight hm w.1) (by norm_num)

end Search

theorem faithful {es : List Entry} {query : String} (hm : Modest es query) :
    (build es).Faithful query := by
  have hsize : (build es).size = es.length := List.length_map _
  have hdocument {d : Document} (hd : d ∈ (build es).documents) :
      ∃ e ∈ es, d = .ofEntry e := by
    obtain ⟨e, he, rfl⟩ := List.mem_map.1 hd
    exact ⟨e, he, rfl⟩
  constructor
  · intro n h0 hn
    rw [hsize] at hn ⊢
    exact (h.rarity hm.entries h0 hn).marks
  · intro q hq
    exact (Sized.ofNat (hm.count_asked hq)).multiplies (h.weight hm q.1) (by norm_num)
  · intro w hw
    exact (h.queryWeight hm hw).multiplies (h.queryWeight hm hw) (by norm_num)
  · intro w hw d hd
    obtain ⟨e, he, rfl⟩ := hdocument hd
    exact (h.queryWeight hm hw).multiplies (.ofNat (hm.occurrences he w.1)) (by norm_num)
  · intro w hw d hd
    obtain ⟨e, he, rfl⟩ := hdocument hd
    exact (h.met hm he hw).multiplies (h.weight hm w.1) (by norm_num)
  · intro d hd c hc
    obtain ⟨e, he, rfl⟩ := hdocument hd
    exact (Sized.ofNat (hm.count_held he hc)).multiplies (h.weight hm c.1) (by norm_num)
  · intro d hd c hc _
    obtain ⟨e, he, rfl⟩ := hdocument hd
    have hweight := h.counted hm (hm.count_held he hc) c.1
    exact (h.power hweight (by norm_num)).marks.congr hweight.marks.pos.symm
  · intro d hd
    obtain ⟨e, he, rfl⟩ := hdocument hd
    exact (h.queryNorm hm).multiplies (h.documentNorm hm he) (by norm_num)
  · intro d hd _ hpos
    obtain ⟨e, he, rfl⟩ := hdocument hd
    have hnorms := (h.queryNorm hm).mul (h.documentNorm hm he) (by norm_num)
    have hdot := h.dot hm he
    exact (hdot.div hnorms (hnorms.marks.pos.1 hpos) (by norm_num)).marks.congr hdot.marks.pos.symm

section Errors

variable {es : List Entry} {query : String} (hm : Modest es query)
include hm

theorem exists_sized_score {d : Document} {s : Float} (hd : d ∈ (build es).documents)
    (hs : (build es).Scores query d s) : ∃ p, Sized 802 s p := by
  obtain ⟨e, he, rfl⟩ := List.mem_map.1 hd
  have hpos := (h.faithful hm).norms_pos he hs.queryNorm hs.documentNorm
  have hnorms := (h.queryNorm hm).mul (h.documentNorm hm he) (by norm_num)
  rw [hs.cosine]
  exact ⟨_, (h.dot hm he).div hnorms (hnorms.marks.pos.1 hpos) (by norm_num)⟩

theorem thousandth_score {d : Document} {s : Float} (hd : d ∈ (build es).documents)
    (hs : (build es).Scores query d s) :
    thousandth (s * 1000.0 + 0.5) = .ok (roundScore s) := by
  obtain ⟨p, hsized⟩ := h.exists_sized_score hm hd hs
  obtain ⟨a, ha⟩ := (hsized.mul .thousand (by norm_num)).exists_value
  have hnonneg := zero_le_scaled (zero_lt_iff.1 hs.positive).le
  obtain ⟨b, -, hb⟩ := (top_or_real hnonneg).resolve_left (value_add_half_ne_top ha)
  obtain ⟨y, hy, -⟩ := thousandth_of_value hb
  rw [roundScore, hy]
  rfl

/-- What the search computes is a number at every step: a square, a divisor, a floor. -/
theorem search_is_total :
    (∀ d ∈ (build es).documents, ∀ c ∈ d.counts, ∃ a : ℝ,
      value (Elementary.pow (Float.ofNat c.2 * (build es).weight c.1) 2.0) = a) ∧
    (∀ d ∈ (build es).documents,
      (Index.queryNorm ((build es).queryWeights query) == 0.0) = false →
      ((build es).documentNorm d == 0.0) = false →
      (Index.queryNorm ((build es).queryWeights query) * (build es).documentNorm d == 0.0) =
        false) ∧
    ∀ r ∈ (build es).ranking query, thousandth (r.2 * 1000.0 + 0.5) = .ok (roundScore r.2) := by
  refine ⟨fun d hd c hc => ?_, fun _ => (h.faithful hm).norms_ne_zero, fun r hr => ?_⟩
  · obtain ⟨e, he, rfl⟩ := List.mem_map.1 hd
    exact (h.power (h.counted hm (hm.count_held he hc) c.1) (by norm_num)).exists_value
  · have hscored := ((build es).ranking_perm query).mem_iff.1 hr
    rw [scored_eq, List.mem_filterMap] at hscored
    obtain ⟨d, hd, hr⟩ := hscored
    obtain ⟨s, hs, rfl⟩ := Option.map_eq_some_iff.1 hr
    exact h.thousandth_score hm hd (((build es).score?_eq_some_iff query d s).1 hs)

end Errors

end Accurate

end Switchboard.Discovery.Index
