import Mathlib.Data.List.Perm.Subperm
import Switchboard.Discovery.Inquiry

namespace Switchboard.Discovery

namespace Index

variable {α : Type}

theorem cut_sublist (top : Option Int) (l : List α) : (cut top l).Sublist l := by
  cases top with
  | none => exact List.Sublist.refl l
  | some k =>
      rw [cut]
      split
      · exact List.take_sublist _ _
      · exact List.take_sublist _ _

theorem length_cut_le (n : Nat) (l : List α) : (cut (some (n : Int)) l).length ≤ n := by
  rw [cut, if_pos (Int.natCast_nonneg n), Int.toNat_natCast]
  exact List.length_take_le n l

theorem found_eq {β γ : Type} (score : β → Option γ) (entry : β → α) (bs : List β) :
    (bs.filterMap (fun b => (score b).map (fun s => (entry b, s)))).map Prod.fst =
      (bs.filter (fun b => (score b).isSome)).map entry := by
  induction bs with
  | nil => rfl
  | cons b bs ih =>
      cases hs : score b with
      | none =>
          rw [List.filterMap_cons_none (by simp [hs]), List.filter_cons_of_neg (by simp [hs])]
          exact ih
      | some s =>
          rw [List.filterMap_cons_some (b := (entry b, s)) (by simp [hs]),
            List.filter_cons_of_pos (by simp [hs]), List.map_cons, List.map_cons, ih]

theorem found_sublist {β γ : Type} (score : β → Option γ) (entry : β → α) (bs : List β) :
    ((bs.filterMap (fun b => (score b).map (fun s => (entry b, s)))).map Prod.fst).Sublist
      (bs.map entry) := by
  rw [found_eq]
  exact List.filter_sublist.map entry

variable [Number.Elementary]

theorem scored_sublist (i : Index) (query : String) :
    ((i.scored query).map Prod.fst).Sublist (i.documents.map Document.entry) := by
  unfold scored
  dsimp only
  split
  · exact List.nil_sublist _
  · exact found_sublist (i.score? (i.queryWeights query)) Document.entry i.documents

theorem ranking_perm (i : Index) (query : String) : (i.ranking query).Perm (i.scored query) :=
  List.mergeSort_perm _ _

theorem search_subperm (i : Index) (query : String) (top : Option Int) :
    ((i.search query top).map Hit.entry).Subperm (i.documents.map Document.entry) := by
  have hm : (i.search query top).map Hit.entry = (cut top (i.ranking query)).map Prod.fst := by
    rw [search, List.map_map]
    rfl
  have hc : ((cut top (i.ranking query)).map Prod.fst).Subperm ((i.ranking query).map Prod.fst) :=
    ((cut_sublist top (i.ranking query)).map Prod.fst).subperm
  have hp := ((i.ranking_perm query).map Prod.fst).subperm
  rw [hm]
  exact (hc.trans hp).trans (i.scored_sublist query).subperm

theorem length_search_le (i : Index) (query : String) (n : Nat) :
    (i.search query (some (n : Int))).length ≤ n := by
  rw [search, List.length_map]
  exact length_cut_le n (i.ranking query)

theorem documents_build (es : List Entry) : (build es).documents.map Document.entry = es := by
  rw [build, List.map_map]
  exact List.map_id es

variable (i : Index) (limits : SearchLimits) (q : Inquiry)

theorem discover_subperm :
    ((i.discover limits q).map Hit.entry).Subperm (i.documents.map Document.entry) :=
  (List.filter_sublist.map Hit.entry).subperm.trans (i.search_subperm q.query _)

theorem length_discover_le : (i.discover limits q).length ≤ q.limit limits :=
  Nat.le_trans (List.length_filter_le _ _) (i.length_search_le q.query (q.limit limits))

theorem allows_of_mem_discover {h : Hit} (hh : h ∈ i.discover limits q) : q.allows h.entry = true :=
  (List.mem_filter.1 hh).2

end Index

end Switchboard.Discovery
