import Switchboard.Proofs.Discovery.Ranking

namespace Switchboard.Discovery.Index

open Number (Elementary)

variable [Elementary]

structure Scores (i : Index) (query : String) (d : Document) (s : Float) : Prop where
  filled : d.counts ≠ []
  queryNorm : (queryNorm (i.queryWeights query) == 0.0) = false
  documentNorm : (i.documentNorm d == 0.0) = false
  cosine : s = i.dot (i.queryWeights query) d /
    (Index.queryNorm (i.queryWeights query) * i.documentNorm d)
  positive : 0.0 < s

variable (i : Index) (query : String)

theorem score?_eq_some_iff (d : Document) (s : Float) :
    i.score? (i.queryWeights query) d = some s ↔ i.Scores query d s := by
  unfold score?
  dsimp only
  constructor
  · intro h
    split at h
    · cases h
    · next hfilled =>
        split at h
        · cases h
        · next hnorms =>
            split at h
            · next hpos =>
                cases h
                obtain ⟨hq, hd⟩ := not_or.1 (fun h => hnorms (Bool.or_eq_true_iff.2 h))
                exact ⟨by simpa using hfilled, by simpa using hq, by simpa using hd, rfl, hpos⟩
            · cases h
  · rintro ⟨hfilled, hq, hd, rfl, hpos⟩
    rw [if_neg (by simpa using hfilled), if_neg (by rw [hq, hd]; simp), if_pos hpos]

theorem score?_of_no_weights (d : Document) : i.score? [] d = none := by
  have hnorm : (queryNorm [] == 0.0) = true := by rfl
  unfold score?
  dsimp only
  rw [hnorm, Bool.true_or, if_pos rfl, ite_self]

theorem scored_eq : i.scored query = i.documents.filterMap fun d =>
    (i.score? (i.queryWeights query) d).map fun s => (d.entry, s) := by
  rw [scored]
  split
  · next hempty =>
      rw [List.isEmpty_iff.1 hempty]
      simp [score?_of_no_weights]
  · rfl

theorem map_scored : (i.scored query).map Prod.fst =
    (i.documents.filter fun d =>
      (i.score? (i.queryWeights query) d).isSome).map Document.entry := by
  rw [scored_eq]
  exact found_eq (i.score? (i.queryWeights query)) Document.entry i.documents

end Switchboard.Discovery.Index
