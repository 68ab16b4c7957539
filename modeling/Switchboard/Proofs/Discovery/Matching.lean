import Switchboard.Proofs.Discovery.Cut
import Switchboard.Proofs.Discovery.Frequency
import Switchboard.Proofs.Discovery.Score
import Switchboard.Proofs.Number.Sign

namespace Switchboard.Discovery

open Number (Elementary Marks Multiplies)

section Sums

variable {α : Type} {P : α → Prop} {f : α → Float}

theorem marks_sum {as : List α} (h : ∀ a ∈ as, Marks (f a) (P a)) {z : Float} {q : Prop}
    (hz : Marks z q) : Marks ((as.map f).foldl (· + ·) z) (q ∨ ∃ a ∈ as, P a) := by
  induction as generalizing z q with
  | nil => simpa using hz
  | cons a as ih =>
      obtain ⟨ha, has⟩ := List.forall_mem_cons.1 h
      refine (ih has (hz.add ha)).congr ?_
      rw [or_assoc, List.exists_mem_cons_iff]

theorem marks_total {as : List α} (h : ∀ a ∈ as, Marks (f a) (P a)) :
    Marks (total (as.map f)) (∃ a ∈ as, P a) :=
  (marks_sum h .zero).congr (by rw [false_or])

end Sums

def Entry.Matches (e : Entry) (es : List Entry) (query : String) : Prop :=
  ∃ t ∈ tokenize query, e.Mentions t ∧ ∃ f ∈ es, ¬ f.Mentions t

instance (e : Entry) (es : List Entry) (query : String) : Decidable (e.Matches es query) :=
  inferInstanceAs (Decidable (∃ t ∈ tokenize query, _))

def words (s : String) : List (List Char) :=
  Text.splitOnBlocks (fun c => !isTokenChar c) (s.toList.flatMap fold)

theorem tokenize_eq_nil {s : String} (h : ∀ w ∈ words s, isNoise w = true) : tokenize s = [] := by
  rw [tokenize, List.map_eq_nil_iff]
  exact List.filter_eq_nil_iff.2 fun w hw => by simp [h w hw]

namespace Index

theorem mem_keys_queryWeights (i : Index) (query : String) {t : String} :
    t ∈ (i.queryWeights query).map Prod.fst ↔ t ∈ tokenize query := by
  rw [queryWeights, List.map_map]
  exact mem_keys_tally (tokenize query)

variable [Elementary]

/-- What a search needs of the doubles it works with: the logarithm of one is zero and that of a
quotient above one is positive, and no product and no quotient vanishes. -/
structure Faithful (i : Index) (query : String) : Prop where
  rare : ∀ n, 0 < n → n ≤ i.size → Marks (rarity i.size n) (n < i.size)
  asked : ∀ q ∈ tally (tokenize query), Multiplies (Float.ofNat q.2) (i.weight q.1)
  squared : ∀ w ∈ i.queryWeights query, Multiplies w.2 w.2
  met : ∀ w ∈ i.queryWeights query, ∀ d ∈ i.documents,
    Multiplies w.2 (Float.ofNat (occurrences d.counts w.1))
  shared : ∀ w ∈ i.queryWeights query, ∀ d ∈ i.documents,
    Multiplies (w.2 * Float.ofNat (occurrences d.counts w.1)) (i.weight w.1)
  held : ∀ d ∈ i.documents, ∀ c ∈ d.counts, Multiplies (Float.ofNat c.2) (i.weight c.1)
  powered : ∀ d ∈ i.documents, ∀ c ∈ d.counts, 0.0 ≤ Float.ofNat c.2 * i.weight c.1 →
    Marks (Elementary.pow (Float.ofNat c.2 * i.weight c.1) 2.0)
      (0.0 < Float.ofNat c.2 * i.weight c.1)
  norms : ∀ d ∈ i.documents, Multiplies (queryNorm (i.queryWeights query)) (i.documentNorm d)
  quotient : ∀ d ∈ i.documents, 0.0 ≤ i.dot (i.queryWeights query) d →
    0.0 < queryNorm (i.queryWeights query) * i.documentNorm d →
    Marks (i.dot (i.queryWeights query) d / (queryNorm (i.queryWeights query) * i.documentNorm d))
      (0.0 < i.dot (i.queryWeights query) d)

namespace Faithful

variable {es : List Entry} {query : String} (h : (build es).Faithful query)
include h

theorem weight (t : String) : Marks ((build es).weight t) (Distinguishes es t) := by
  have hsize : (build es).size = es.length := List.length_map _
  rcases weight_cases es t with ⟨n, h0, hn, hw, hless⟩ | ⟨hw, hnone⟩
  · have hrare := h.rare n h0 (hsize ▸ hn)
    rw [hsize] at hrare
    rw [hw]
    exact hrare.congr hless
  · rw [hw]
    exact Marks.zero.congr (iff_of_false id hnone)

theorem queryWeight {w : String × Float} (hw : w ∈ (build es).queryWeights query) :
    Marks w.2 (Distinguishes es w.1) ∧ w.1 ∈ tokenize query := by
  obtain ⟨⟨t, n⟩, hq, rfl⟩ := List.mem_map.1 hw
  refine ⟨((h.asked _ hq).marks (.ofNat _) (h.weight t)).congr ?_, (mem_tally_iff.1 hq).1⟩
  exact and_iff_right (pos_of_mem_tally hq)

theorem queryNorm : Marks (queryNorm ((build es).queryWeights query))
    (∃ w ∈ (build es).queryWeights query, Distinguishes es w.1) := by
  refine (marks_total fun w hw => ?_).sqrt
  have hweight := (h.queryWeight hw).1
  exact ((h.squared w hw).marks hweight hweight).congr (and_self_iff)

variable {e : Entry}

theorem documentNorm (he : e ∈ es) : Marks ((build es).documentNorm (.ofEntry e))
    (∃ c ∈ (Document.ofEntry e).counts, Distinguishes es c.1) := by
  have hd : Document.ofEntry e ∈ (build es).documents := List.mem_map_of_mem he
  refine (marks_total fun c hc => ?_).sqrt
  have hweight := (h.held _ hd c hc).marks (.ofNat c.2) (h.weight c.1)
  refine (h.powered _ hd c hc hweight.nonneg).congr ?_
  rw [hweight.pos]
  exact and_iff_right (pos_of_mem_tally hc)

theorem dot (he : e ∈ es) : Marks ((build es).dot ((build es).queryWeights query) (.ofEntry e))
    (∃ w ∈ (build es).queryWeights query, Distinguishes es w.1 ∧ e.Mentions w.1) := by
  have hd : Document.ofEntry e ∈ (build es).documents := List.mem_map_of_mem he
  refine marks_total fun w hw => ?_
  have hmet := (h.met w hw _ hd).marks (h.queryWeight hw).1 (.ofNat _)
  refine ((h.shared w hw _ hd).marks hmet (h.weight w.1)).congr ?_
  have hoccurs : 0 < occurrences (Document.ofEntry e).counts w.1 ↔ e.Mentions w.1 := by
    rw [Document.ofEntry, occurrences_tally, List.count_pos_iff, Entry.mem_tokens_iff]
  rw [hoccurs, and_iff_left_of_imp fun h => h.1]

theorem norms_pos (he : e ∈ es)
    (hq : (Index.queryNorm ((build es).queryWeights query) == 0.0) = false)
    (hd : ((build es).documentNorm (.ofEntry e) == 0.0) = false) :
    0.0 < Index.queryNorm ((build es).queryWeights query) *
      (build es).documentNorm (.ofEntry e) := by
  have hnorms := (h.norms _ (List.mem_map_of_mem he)).marks h.queryNorm (h.documentNorm he)
  exact hnorms.pos.2 ⟨h.queryNorm.beq_zero.1 hq, (h.documentNorm he).beq_zero.1 hd⟩

theorem norms_ne_zero {d : Document} (hd : d ∈ (build es).documents)
    (hq : (Index.queryNorm ((build es).queryWeights query) == 0.0) = false)
    (hn : ((build es).documentNorm d == 0.0) = false) :
    (Index.queryNorm ((build es).queryWeights query) * (build es).documentNorm d == 0.0) =
      false := by
  obtain ⟨e, he, rfl⟩ := List.mem_map.1 hd
  exact (Marks.of_zero_lt (h.norms_pos he hq hn)).beq_zero.2 trivial

theorem exists_scores_iff (he : e ∈ es) :
    (∃ s, (build es).Scores query (.ofEntry e) s) ↔ e.Matches es query := by
  have hd : Document.ofEntry e ∈ (build es).documents := List.mem_map_of_mem he
  have hdot := h.dot he
  constructor
  · rintro ⟨s, hs⟩
    have hquotient := h.quotient _ hd hdot.nonneg (h.norms_pos he hs.queryNorm hs.documentNorm)
    have hpositive := hs.positive
    rw [hs.cosine, hquotient.pos, hdot.pos] at hpositive
    obtain ⟨w, hw, ht, hm⟩ := hpositive
    exact ⟨w.1, (h.queryWeight hw).2, hm, ht.2⟩
  · rintro ⟨t, ht, hm, hf⟩
    have hdistinguishes : Distinguishes es t := ⟨⟨e, he, hm⟩, hf⟩
    obtain ⟨w, hw, rfl⟩ := List.mem_map.1 ((mem_keys_queryWeights _ query).2 ht)
    obtain ⟨c, hc, hcw⟩ := List.mem_map.1 ((mem_terms_iff e w.1).2 hm)
    have hq := h.queryNorm.beq_zero.2 ⟨w, hw, hdistinguishes⟩
    have hn := (h.documentNorm he).beq_zero.2 ⟨c, hc, hcw ▸ hdistinguishes⟩
    have hquotient := h.quotient _ hd hdot.nonneg (h.norms_pos he hq hn)
    exact ⟨_, List.ne_nil_of_mem hc, hq, hn, rfl,
      hquotient.pos.2 (hdot.pos.2 ⟨w, hw, hdistinguishes, hm⟩)⟩

theorem map_search_perm :
    (((build es).search query none).map Hit.entry).Perm
      (es.filter fun e => decide (e.Matches es query)) := by
  have hentries : ((build es).search query none).map Hit.entry =
      ((build es).ranking query).map Prod.fst := by
    rw [search, List.map_map]
    rfl
  have hdocuments : (build es).documents = es.map Document.ofEntry := rfl
  rw [hentries]
  refine (((build es).ranking_perm query).map Prod.fst).trans (List.Perm.of_eq ?_)
  rw [map_scored, hdocuments, List.filter_map, List.map_map]
  refine (List.map_id _).trans (List.filter_congr fun e he => ?_)
  rw [Bool.eq_iff_iff, decide_eq_true_iff, ← h.exists_scores_iff he, Function.comp_apply,
    Option.isSome_iff_exists]
  exact exists_congr fun s => (build es).score?_eq_some_iff query (.ofEntry e) s

end Faithful

theorem search_finds_distinguishing (es : List Entry) (query : String)
    (h : (build es).Faithful query) :
    let i := build es
    ((i.search query none).map Hit.entry).Perm (es.filter fun e => decide (e.Matches es query)) ∧
    ((∀ t ∈ tokenize query, (∀ e ∈ es, ¬ e.Mentions t) ∨ ∀ e ∈ es, e.Mentions t) →
      i.search query none = []) ∧
    ((∀ w ∈ words query, isNoise w = true) → i.search query none = []) ∧
    (∀ f ∈ i.frequencies, f.2 ≠ 0) ∧
    ∀ d ∈ i.documents, (queryNorm (i.queryWeights query) == 0.0) = false →
      (i.documentNorm d == 0.0) = false →
      (queryNorm (i.queryWeights query) * i.documentNorm d == 0.0) = false := by
  intro i
  have hperm := h.map_search_perm
  have hnone (hno : ∀ e ∈ es, ¬ e.Matches es query) : i.search query none = [] := by
    rw [List.filter_eq_nil_iff.2 (by simpa using hno)] at hperm
    exact List.map_eq_nil_iff.1 hperm.eq_nil
  refine ⟨hperm, fun hcommon => hnone ?_, fun hnoise => hnone ?_, ?_, fun _ => h.norms_ne_zero⟩
  · rintro e he ⟨t, ht, hm, f, hf, hlacks⟩
    rcases hcommon t ht with hunknown | hall
    · exact hunknown e he hm
    · exact hlacks (hall f hf)
  · rintro e - ⟨t, ht, -⟩
    rw [tokenize_eq_nil hnoise] at ht
    cases ht
  · rintro ⟨t, n⟩ hf
    exact ((mem_frequencies_iff es t n).1 hf).1.ne'

end Index

@[reducible] def twinsOwnLog : Elementary :=
  ⟨fun x => if x ≤ 1.0 then 0.0 else 0.6931471805599453, fun x _ => x * x⟩

namespace Index

theorem faithful_twins :
    @Faithful twinsOwnLog (@build twinsOwnLog twins) "the alpha, alpha" := by
  have hrare : ∀ n ≤ 2, 0 < n → Marks (@rarity twinsOwnLog 2 n) (n < 2) := by decide +kernel
  refine @Faithful.mk twinsOwnLog _ _ (fun n h0 h1 => hrare n h1 h0) ?_ ?_ ?_ ?_ ?_ ?_ ?_ ?_
  all_goals decide +kernel

theorem search_finds_distinguishing_twin :
    let hits := @search twinsOwnLog (@build twinsOwnLog twins) "the alpha, alpha" none
    @Faithful twinsOwnLog (@build twinsOwnLog twins) "the alpha, alpha" ∧
      (hits.map Hit.entry).Perm [⟨"left", "Left", "alpha", ""⟩] := by
  have hmatches : (twins.filter fun e => decide (e.Matches twins "the alpha, alpha")) =
      [⟨"left", "Left", "alpha", ""⟩] := by decide +kernel
  have hfinds := @search_finds_distinguishing twinsOwnLog twins _ faithful_twins
  exact ⟨faithful_twins, hmatches ▸ hfinds.1⟩

end Index

end Switchboard.Discovery
