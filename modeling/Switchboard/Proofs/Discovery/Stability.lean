import Switchboard.Proofs.Discovery.Cut
import Switchboard.Proofs.Discovery.Score
import Switchboard.Proofs.Number.Ratio
import Switchboard.Proofs.Number.Sum

namespace Switchboard.Discovery

open Number (Elementary value)

section Lists

variable {α κ : Type} [LinearOrder κ] (key : α → κ)

def falling (a b : α) : Bool := decide (key b ≤ key a)

theorem falling_trans (a b c : α) (hab : falling key a b = true) (hbc : falling key b c = true) :
    falling key a c = true :=
  decide_eq_true ((of_decide_eq_true hbc).trans (of_decide_eq_true hab))

theorem falling_total (a b : α) : (falling key a b || falling key b a) = true := by
  simpa [falling] using le_total (key b) (key a)

theorem filter_mergeSort_falling (l : List α) (k : κ) :
    (l.mergeSort (falling key)).filter (fun a => decide (key a = k)) =
      l.filter (fun a => decide (key a = k)) := by
  have hties : (l.filter (fun a => decide (key a = k))).Pairwise (falling key · ·) := by
    refine List.pairwise_of_forall_mem_list fun a ha b hb => decide_eq_true ?_
    rw [of_decide_eq_true (List.mem_filter.1 ha).2, of_decide_eq_true (List.mem_filter.1 hb).2]
  have hkept := List.sublist_mergeSort (falling_trans key) (falling_total key) hties
    List.filter_sublist
  have hsub := hkept.filter (fun a => decide (key a = k))
  rw [List.filter_filter] at hsub
  simp only [Bool.and_self] at hsub
  have hperm := (List.mergeSort_perm l (falling key)).filter (fun a => decide (key a = k))
  exact (hsub.eq_of_length hperm.length_eq.symm).symm

theorem pairwise_mergeSort_falling {pos : α → Nat} {l : List α}
    (h : l.Pairwise fun a b => pos a < pos b) :
    (l.mergeSort (falling key)).Pairwise
      fun a b => key b ≤ key a ∧ (key a ≤ key b → pos a < pos b) := by
  have hfalls := List.pairwise_mergeSort (falling_trans key) (falling_total key) l
  refine List.pairwise_iff_forall_sublist.2 fun {a b} hab => ?_
  have hle : key b ≤ key a := of_decide_eq_true (List.pairwise_iff_forall_sublist.1 hfalls hab)
  refine ⟨hle, fun hge => ?_⟩
  have htie : key b = key a := le_antisymm hle hge
  have hties := hab.filter (fun c => decide (key c = key a))
  rw [List.filter_cons_of_pos (by simp), List.filter_cons_of_pos (by simp [htie]), List.filter_nil,
    filter_mergeSort_falling] at hties
  exact List.pairwise_iff_forall_sublist.1 h (hties.trans List.filter_sublist)

end Lists

section Scores

open Number

variable {x y : Float}

theorem le_iff_of_positive (hx : 0.0 < x) (hy : 0.0 < y) : x ≤ y ↔ value x ≤ value y := by
  have hx := ((lt_iff 0.0 x).1 hx).2.1
  have hy := ((lt_iff 0.0 y).1 hy).2.1
  exact (le_iff x y).trans ⟨fun h => h.2.2, fun h => ⟨hx, hy, h⟩⟩

theorem value_scaled_le (h : value x ≤ value y) :
    value (x * 1000.0 + 0.5) ≤ value (y * 1000.0 + 0.5) :=
  value_add_le value_half (value_mul_le unpack_thousand h)

theorem zero_le_scaled (h : ((0 : ℝ) : EReal) ≤ value x) :
    ((0 : ℝ) : EReal) ≤ value (x * 1000.0 + 0.5) := by
  have hhalf : value (0.0 * 1000.0 + 0.5) = (1 / 2 : ℝ) := value_half
  have hleast : ((1 / 2 : ℝ) : EReal) ≤ value (x * 1000.0 + 0.5) :=
    hhalf ▸ value_scaled_le (value_zero ▸ h)
  exact (EReal.coe_le_coe_iff.2 (by norm_num)).trans hleast

theorem roundScore_of_value {a : ℝ} (h : value (x * 1000.0 + 0.5) = a) :
    Approximates (⌊a⌋ / 1000) (value (Index.roundScore x)) := by
  obtain ⟨y, hy, happrox⟩ := thousandth_of_value h
  rwa [Index.roundScore, hy]

theorem roundScore_of_top (h : value (x * 1000.0 + 0.5) = ⊤) : Index.roundScore x = x := by
  obtain ⟨e, he⟩ := thousandth_of_top h
  rw [Index.roundScore, he]
  rfl

theorem zero_le_value_mul_thousand (h : ((0 : ℝ) : EReal) ≤ value x) :
    ((0 : ℝ) : EReal) ≤ value (x * 1000.0) := by
  have hzero : value (0.0 * 1000.0) = (0 : ℝ) := value_zero
  exact hzero ▸ value_mul_le unpack_thousand (value_zero ▸ h)

/-- Where the scaled score overflows, the score itself is larger than any thousandth. -/
theorem le_of_scaled_top {a b : ℝ} (hb : value y = b) (h0 : 0 ≤ b)
    (ha : ∃ z : Float, value z = a) (htop : value (y * 1000.0 + 0.5) = ⊤) :
    (⌊a⌋ / 1000 : ℝ) ≤ b := by
  obtain ⟨z, ha⟩ := ha
  by_contra hlt
  have hless : b * 1000 ≤ a := by
    have := Int.floor_le a
    linarith
  have hhigh := (approximates_mul_thousand hb).mono (approximates_of_value ha) hless
  have hlow := zero_le_value_mul_thousand (hb ▸ EReal.coe_le_coe_iff.2 h0)
  rw [ha] at hhigh
  have hreal := EReal.coe_toReal (ne_top_of_le_ne_top (EReal.coe_ne_top a) hhigh)
    (ne_bot_of_le_ne_bot (EReal.coe_ne_bot 0) hlow)
  exact value_add_half_ne_top hreal.symm htop

theorem value_roundScore_le (hx : ((0 : ℝ) : EReal) ≤ value x) (h : value x ≤ value y) :
    value (Index.roundScore x) ≤ value (Index.roundScore y) := by
  have hscaled := value_scaled_le h
  rcases top_or_real (zero_le_scaled (hx.trans h)) with hy | ⟨b, -, hb⟩
  · rw [roundScore_of_top hy]
    rcases top_or_real (zero_le_scaled hx) with hx' | ⟨a, -, ha⟩
    · rwa [roundScore_of_top hx']
    · rcases top_or_real (hx.trans h) with hyt | ⟨c, hc, hyc⟩
      · rw [hyt]
        exact le_top
      · exact (roundScore_of_value ha).mono (approximates_of_value hyc)
          (le_of_scaled_top hyc hc ⟨_, ha⟩ hy)
  · rcases top_or_real (zero_le_scaled hx) with hx' | ⟨a, -, ha⟩
    · rw [hx', hb] at hscaled
      exact absurd hscaled (not_le.2 (EReal.coe_lt_top b))
    · rw [ha, hb, EReal.coe_le_coe_iff] at hscaled
      refine (roundScore_of_value ha).mono (roundScore_of_value hb) ?_
      have hfloor : (⌊a⌋ : ℝ) ≤ ⌊b⌋ := by exact_mod_cast Int.floor_le_floor hscaled
      linarith

theorem zero_le_value_roundScore (hx : ((0 : ℝ) : EReal) ≤ value x) :
    ((0 : ℝ) : EReal) ≤ value (Index.roundScore x) := by
  have hzero : value (Index.roundScore 0.0) = (0 : ℝ) := value_zero
  exact hzero ▸ value_roundScore_le (value_zero ▸ le_rfl) (value_zero ▸ hx)

theorem roundScore_le (hx : 0.0 < x) (h : x ≤ y) : Index.roundScore x ≤ Index.roundScore y := by
  have hx := (zero_lt_iff.1 hx).le
  have hle := ((le_iff x y).1 h).2.2
  have hnumber {z : Float} (hz : ((0 : ℝ) : EReal) ≤ value z) : IsNumber (Index.roundScore z) :=
    isNumber_of_ne_bot (ne_bot_of_le_ne_bot (EReal.coe_ne_bot 0) (zero_le_value_roundScore hz))
  exact (le_iff _ _).2 ⟨hnumber hx, hnumber (hx.trans hle), value_roundScore_le hx hle⟩

end Scores

namespace Index

theorem cut_map {α β : Type} (f : α → β) (top : Option Int) (l : List α) :
    cut top (l.map f) = (cut top l).map f := by
  cases top with
  | none => rfl
  | some k =>
      rw [cut, cut]
      split
      · exact List.map_take.symm
      · rw [List.length_map]
        exact List.map_take.symm

theorem cut_some {α : Type} (k : Int) (l : List α) :
    cut (some k) l = l.take (if k < 0 then l.length + k else k).toNat := by
  rw [cut]
  split
  · rw [if_neg (by omega)]
  · rw [if_pos (by omega)]
    congr 1
    omega

variable [Elementary]

variable (i : Index) (query : String)

def graded : List ((Nat × Float) × Entry) :=
  i.documents.zipIdx.filterMap fun d =>
    (i.score? (i.queryWeights query) d.1).map fun s => ((d.2, s), d.1.entry)

theorem mem_graded_iff (p : Nat) (s : Float) (e : Entry) :
    ((p, s), e) ∈ i.graded query ↔
      ∃ d, i.documents[p]? = some d ∧ d.entry = e ∧ i.Scores query d s := by
  unfold graded
  simp only [List.mem_filterMap, Option.map_eq_some_iff, Prod.mk.injEq, score?_eq_some_iff]
  constructor
  · rintro ⟨⟨d, q⟩, hm, s, hs, ⟨rfl, rfl⟩, rfl⟩
    exact ⟨d, List.mem_zipIdx_iff_getElem?.1 hm, rfl, hs⟩
  · rintro ⟨d, hd, rfl, hs⟩
    exact ⟨(d, p), List.mem_zipIdx_iff_getElem?.2 hd, s, hs, ⟨rfl, rfl⟩, rfl⟩

theorem pairwise_graded : (i.graded query).Pairwise fun a b => a.1.1 < b.1.1 := by
  have hplaces : i.documents.zipIdx.Pairwise fun a b => a.2 < b.2 := by
    rw [← List.pairwise_map (f := Prod.snd) (R := (· < ·)), List.zipIdx_map_snd]
    exact List.pairwise_lt_range'
  refine hplaces.filterMap _ fun a b hlt ga ha gb hb => ?_
  obtain ⟨_, -, rfl⟩ := Option.map_eq_some_iff.1 ha
  obtain ⟨_, -, rfl⟩ := Option.map_eq_some_iff.1 hb
  exact hlt

theorem scored_eq_graded : i.scored query = (i.graded query).map fun g => (g.2, g.1.2) := by
  rw [scored_eq, graded, List.map_filterMap]
  conv_lhs => rw [← List.zipIdx_map_fst 0 i.documents, List.filterMap_map]
  simp only [Option.map_map]
  rfl

def ranked : List ((Nat × Float) × Entry) :=
  (i.graded query).mergeSort fun a b => decide (b.1.2 ≤ a.1.2)

theorem ranking_eq : i.ranking query = (i.ranked query).map fun g => (g.2, g.1.2) := by
  rw [ranking, scored_eq_graded, ranked]
  refine (List.map_mergeSort ?_).symm
  exact fun _ _ _ _ => rfl

theorem zero_lt_of_mem_graded {g : (Nat × Float) × Entry} (hg : g ∈ i.graded query) :
    0.0 < g.1.2 := by
  obtain ⟨d, -, -, hs⟩ := (i.mem_graded_iff query g.1.1 g.1.2 g.2).1 hg
  exact hs.positive

theorem ranked_eq : i.ranked query = (i.graded query).mergeSort (falling fun g => value g.1.2) := by
  have h : (i.ranked query).map id =
      ((i.graded query).map id).mergeSort (falling fun g => value g.1.2) := by
    refine List.map_mergeSort fun a ha b hb => ?_
    exact decide_eq_decide.2 (le_iff_of_positive (i.zero_lt_of_mem_graded query hb)
      (i.zero_lt_of_mem_graded query ha))
  rwa [List.map_id, List.map_id] at h

theorem mem_ranked_iff {g : (Nat × Float) × Entry} : g ∈ i.ranked query ↔ g ∈ i.graded query :=
  (List.mergeSort_perm _ _).mem_iff

theorem pairwise_ranked : (i.ranked query).Pairwise fun a b =>
    b.1.2 ≤ a.1.2 ∧ (a.1.2 ≤ b.1.2 → a.1.1 < b.1.1) := by
  have h := pairwise_mergeSort_falling (fun g : (Nat × Float) × Entry => value g.1.2)
    (i.pairwise_graded query)
  rw [← ranked_eq] at h
  refine h.imp_of_mem fun {a b} ha hb hab => ?_
  have ha := i.zero_lt_of_mem_graded query ((i.mem_ranked_iff query).1 ha)
  have hb := i.zero_lt_of_mem_graded query ((i.mem_ranked_iff query).1 hb)
  rwa [le_iff_of_positive hb ha, le_iff_of_positive ha hb]

theorem search_eq_cut (top : Option Int) : i.search query top = cut top (i.search query none) :=
  (cut_map _ top (i.ranking query)).symm

theorem search_eq_map :
    i.search query none = (i.ranked query).map fun g => ⟨g.2, roundScore g.1.2⟩ := by
  rw [search, cut, ranking_eq, List.map_map]
  rfl

theorem pairwise_search : (i.search query none).Pairwise fun a b => b.score ≤ a.score := by
  rw [search_eq_map, List.pairwise_map]
  refine (i.pairwise_ranked query).imp_of_mem fun {a b} _ hb hab => ?_
  exact roundScore_le (i.zero_lt_of_mem_graded query ((i.mem_ranked_iff query).1 hb)) hab.1

theorem mem_graded_build_iff (es : List Entry) (p : Nat) (s : Float) (e : Entry) :
    ((p, s), e) ∈ (build es).graded query ↔
      es[p]? = some e ∧ (build es).Scores query (.ofEntry e) s := by
  have hdocuments : (build es).documents[p]? = es[p]?.map Document.ofEntry := List.getElem?_map
  rw [mem_graded_iff, hdocuments]
  constructor
  · rintro ⟨d, hd, rfl, hs⟩
    obtain ⟨e, he, rfl⟩ := Option.map_eq_some_iff.1 hd
    exact ⟨he, hs⟩
  · rintro ⟨he, hs⟩
    exact ⟨_, Option.map_eq_some_iff.2 ⟨e, he, rfl⟩, rfl, hs⟩

theorem nodup_places : (((i.ranked query).map Prod.fst).map Prod.fst).Nodup := by
  have hplaces : (((i.graded query).map Prod.fst).map Prod.fst).Nodup := by
    rw [List.map_map, List.nodup_iff_pairwise_ne, List.pairwise_map]
    exact (i.pairwise_graded query).imp fun h => h.ne
  exact (((List.mergeSort_perm _ _).map Prod.fst).map Prod.fst).nodup_iff.2 hplaces

theorem search_ranks_stably (es : List Entry) (query : String) :
    let i := build es
    let best := i.search query none
    (∃ ranks : List (Nat × Float),
      (∀ p s, (p, s) ∈ ranks ↔ ∃ e, es[p]? = some e ∧ i.Scores query (.ofEntry e) s) ∧
      (ranks.map Prod.fst).Nodup ∧
      ranks.Pairwise (fun a b => b.2 ≤ a.2 ∧ (a.2 ≤ b.2 → a.1 < b.1)) ∧
      List.Forall₂ (fun r h => es[r.1]? = some h.entry ∧ h.score = roundScore r.2) ranks best) ∧
    best.Pairwise (fun a b => b.score ≤ a.score) ∧
    ∀ k : Int,
      i.search query (some k) = best.take (if k < 0 then best.length + k else k).toNat ∧
      (0 ≤ k → ((i.search query (some k)).length : Int) = min k best.length) := by
  intro i best
  have hcut (k : Int) :
      i.search query (some k) = best.take (if k < 0 then best.length + k else k).toNat :=
    (i.search_eq_cut query (some k)).trans (cut_some k best)
  refine ⟨⟨(i.ranked query).map Prod.fst, ?_, i.nodup_places query, ?_, ?_⟩,
    i.pairwise_search query, fun k => ⟨hcut k, fun hk => ?_⟩⟩
  · intro p s
    simp only [List.mem_map, Prod.exists, exists_and_right, exists_eq_right, mem_ranked_iff]
    exact exists_congr (mem_graded_build_iff query es p s)
  · exact List.pairwise_map.2 (i.pairwise_ranked query)
  · have hbest : best = (i.ranked query).map fun g => ⟨g.2, roundScore g.1.2⟩ :=
      i.search_eq_map query
    rw [hbest, List.forall₂_map_left_iff, List.forall₂_map_right_iff, List.forall₂_same]
    intro g hg
    have hg := (i.mem_ranked_iff query).1 hg
    exact ⟨((mem_graded_build_iff query es g.1.1 g.1.2 g.2).1 hg).1, rfl⟩
  · rw [hcut, if_neg (by omega), List.length_take]
    omega

end Index

end Switchboard.Discovery
