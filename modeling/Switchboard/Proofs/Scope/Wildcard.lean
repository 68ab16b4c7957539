import Switchboard.Scope

namespace Switchboard.Scope

theorem colon_ne_star (q r : String) : q ++ ":" ++ r ≠ "*" := by
  intro h
  have hm : ':' ∈ (q ++ ":" ++ r).toList := by simp
  rw [h] at hm
  simp at hm

theorem covers_iff (parent child : String) :
    covers parent child = true ↔
      parent = "*" ∨ parent = child ∨ ∃ q r, parent = q ++ ":*" ∧ child = q ++ ":" ++ r := by
  simp only [covers, Bool.or_eq_true, Bool.and_eq_true, decide_eq_true_eq,
    List.isSuffixOf_iff_suffix, List.isPrefixOf_iff_prefix, or_assoc]
  refine or_congr Iff.rfl (or_congr Iff.rfl ?_)
  constructor
  · rintro ⟨⟨l, hl⟩, ⟨s, hs⟩⟩
    have hp : parent = String.ofList l ++ ":*" := by
      rw [← String.toList_inj, ← hl]
      simp
    refine ⟨String.ofList l, String.ofList s, hp, ?_⟩
    rw [← String.toList_inj, ← hs, ← hl]
    simp [List.dropLast_append_of_ne_nil]
  · rintro ⟨q, r, rfl, rfl⟩
    refine ⟨⟨q.toList, by simp⟩, ⟨r.toList, ?_⟩⟩
    simp [List.dropLast_append_of_ne_nil]

theorem colon_split {q r b y : String} (h : q ++ ":" ++ r = b ++ ":" ++ y) :
    (q = b ∧ r = y) ∨ (∃ s, b = q ++ ":" ++ s) ∨ ∃ s, q = b ++ ":" ++ s ∧ y = s ++ ":" ++ r := by
  have hl : q.toList ++ ':' :: r.toList = b.toList ++ ':' :: y.toList := by
    simpa using congrArg String.toList h
  rcases List.append_eq_append_iff.1 hl with ⟨s, hb, hr⟩ | ⟨s, hq, hy⟩
  · cases s with
    | nil =>
        left
        simp only [List.nil_append, List.cons.injEq, true_and] at hr
        simp only [List.append_nil] at hb
        exact ⟨(String.toList_inj.1 hb).symm, String.toList_inj.1 hr⟩
    | cons a s =>
        right; left
        simp only [List.cons_append, List.cons.injEq] at hr
        refine ⟨String.ofList s, ?_⟩
        rw [← String.toList_inj, hb, ← hr.1]
        simp
  · cases s with
    | nil =>
        left
        simp only [List.nil_append, List.cons.injEq, true_and] at hy
        simp only [List.append_nil] at hq
        exact ⟨String.toList_inj.1 hq, (String.toList_inj.1 hy).symm⟩
    | cons a s =>
        right; right
        simp only [List.cons_append, List.cons.injEq] at hy
        refine ⟨String.ofList s, ?_, ?_⟩
        · rw [← String.toList_inj, hq, ← hy.1]
          simp
        · rw [← String.toList_inj, hy.2]
          simp

end Switchboard.Scope
