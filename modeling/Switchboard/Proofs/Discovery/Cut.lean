import Switchboard.Proofs.Discovery.Ranking

namespace Switchboard.Discovery

section Lists

variable {α : Type} (p : α → Bool) (n : Nat) (l : List α)

theorem take_filter_eq :
    (l.filter p).take n =
      (l.take n).filter p ++ ((l.drop n).filter p).take (n - ((l.take n).filter p).length) := by
  have hlen : ((l.take n).filter p).length ≤ n :=
    Nat.le_trans (List.length_filter_le _ _) (List.length_take_le n l)
  have hsplit : l.filter p = (l.take n).filter p ++ (l.drop n).filter p := by
    rw [← List.filter_append, List.take_append_drop]
  rw [hsplit, List.take_append, List.take_of_length_le hlen]

theorem filter_take_eq_iff :
    (l.take n).filter p = (l.filter p).take n ↔
      (∀ a ∈ l.take n, p a = true) ∨ ∀ a ∈ l.drop n, p a = false := by
  rw [take_filter_eq, List.self_eq_append_right, List.take_eq_nil_iff, List.filter_eq_nil_iff]
  simp only [Bool.not_eq_true]
  refine or_congr_left' fun hrest => ?_
  have hlong : n ≤ l.length := by
    by_contra hshort
    refine hrest fun a ha => ?_
    rw [List.drop_eq_nil_of_le (Nat.le_of_not_le hshort)] at ha
    cases ha
  have hfull : (l.take n).length = n := List.length_take_of_le hlong
  have hle := List.length_filter_le p (l.take n)
  rw [hfull] at hle
  rw [← List.length_filter_eq_length_iff, hfull, Nat.sub_eq_zero_iff_le]
  exact ⟨Nat.le_antisymm hle, fun h => Nat.le_of_eq h.symm⟩

end Lists

namespace Index

variable [Number.Elementary]

theorem search_eq_take (i : Index) (query : String) (n : Nat) :
    i.search query (some (n : Int)) = (i.search query none).take n := by
  have hcut : cut (some (n : Int)) (i.ranking query) = (cut none (i.ranking query)).take n := by
    rw [cut, cut, if_pos (Int.natCast_nonneg n), Int.toNat_natCast]
  rw [search, search, hcut, List.map_take]

theorem discover_filters_cut (i : Index) (limits : SearchLimits) (q : Inquiry) :
    let best := i.search q.query none
    let top := min ((q.top.map (·.1)).getD limits.usual) limits.most
    let permitted : Hit → Bool := fun h => Scope.permits q.scopes h.entry.backend h.entry.tool
    i.discover limits q = (best.take top).filter permitted ∧
      (i.discover limits q = (best.filter permitted).take top ↔
        (∀ h ∈ best.take top, permitted h = true) ∨ ∀ h ∈ best.drop top, permitted h = false) := by
  intro best top permitted
  have hdiscover : i.discover limits q = (best.take top).filter permitted := by
    rw [discover, search_eq_take]
    rfl
  rw [hdiscover]
  exact ⟨rfl, filter_take_eq_iff permitted top best⟩

end Index

def twins : List Entry := [⟨"left", "Left", "alpha", ""⟩, ⟨"right", "Right", "beta", ""⟩]

@[reducible] def twinsOwn : Number.Elementary := ⟨fun _ => 0.6931471805599453, fun x _ => x * x⟩

namespace Index

theorem ranking_twins : @ranking twinsOwn (@build twinsOwn twins) "alpha beta" =
    twins.map (fun e => (e, 0.7071067811865476)) := by
  have hscored : @scored twinsOwn (@build twinsOwn twins) "alpha beta" =
      twins.map (fun e => (e, 0.7071067811865476)) := by decide +kernel
  unfold ranking
  rw [hscored]
  exact List.mergeSort_of_pairwise (by decide +kernel)

theorem permitted_hit_displaced :
    let i := @build twinsOwn twins
    let q : Inquiry := ⟨"alpha beta", some ⟨1, by decide⟩, some ["right"]⟩
    let best := @search twinsOwn i q.query none
    best.map Hit.entry = twins ∧
    (((best.filter (fun h => q.allows h.entry)).take (q.limit .standard)).map Hit.entry =
      [⟨"right", "Right", "beta", ""⟩]) ∧
    @discover twinsOwn i .standard q = [] := by
  intro i q best
  have hranking : @ranking twinsOwn i q.query = twins.map (fun e => (e, 0.7071067811865476)) :=
    ranking_twins
  simp only [discover, best, search, hranking]
  exact ⟨rfl, by decide +kernel, List.map_eq_nil_iff.1 (by decide +kernel : List.map Hit.entry _ = [])⟩

end Index

end Switchboard.Discovery
