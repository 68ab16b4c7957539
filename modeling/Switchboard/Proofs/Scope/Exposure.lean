import Switchboard.Proofs.Scope.Wildcard

namespace Switchboard.Scope

/-- What stands before a colon inside one of the two ids, as a scope would spell it. -/
inductive Cut (backend tool : String) : String → Prop
  | inBackend {q r} : backend = q ++ ":" ++ r → Cut backend tool q
  | inTool {u r} : tool = u ++ ":" ++ r → Cut backend tool (backend ++ ":" ++ u)
  | inToolAnywhere {u r} : tool = u ++ ":" ++ r → Cut backend tool ("*:" ++ u)

def Leaks (parents : List String) (backend tool : String) : Prop :=
  permits (some parents) backend tool = false ∧ ∃ q, Cut backend tool q ∧ q ++ ":*" ∈ parents

theorem mem_accepted_iff (s backend tool : String) :
    s ∈ accepted backend tool ↔
      s = "*" ∨ s = backend ∨
        ∃ b t, (b = "*" ∨ b = backend) ∧ (t = "*" ∨ t = tool) ∧ s = b ++ ":" ++ t := by
  simp only [accepted, List.mem_cons, List.not_mem_nil, or_false]
  constructor
  · rintro (h | h | h | h | h | h)
    · exact Or.inl h
    · exact Or.inr (Or.inr ⟨"*", "*", Or.inl rfl, Or.inl rfl, h⟩)
    · exact Or.inr (Or.inr ⟨"*", tool, Or.inl rfl, Or.inr rfl, h⟩)
    · exact Or.inr (Or.inl h)
    · exact Or.inr (Or.inr ⟨backend, "*", Or.inr rfl, Or.inl rfl, by rw [h, String.append_assoc]; rfl⟩)
    · exact Or.inr (Or.inr ⟨backend, tool, Or.inr rfl, Or.inr rfl, h⟩)
  · rintro (h | h | ⟨b, t, rfl | rfl, rfl | rfl, h⟩)
    · exact Or.inl h
    · exact Or.inr (Or.inr (Or.inr (Or.inl h)))
    · exact Or.inr (Or.inl h)
    · exact Or.inr (Or.inr (Or.inl h))
    · exact Or.inr (Or.inr (Or.inr (Or.inr (Or.inl (by rw [h, String.append_assoc]; rfl)))))
    · exact Or.inr (Or.inr (Or.inr (Or.inr (Or.inr h))))

theorem star_mem_accepted {b backend : String} (tool : String) (hb : b = "*" ∨ b = backend) :
    b ++ ":*" ∈ accepted backend tool := by
  rw [mem_accepted_iff]
  exact Or.inr (Or.inr ⟨b, "*", hb, Or.inl rfl, by rw [String.append_assoc]; rfl⟩)

theorem cut_of_covered {backend tool q r : String} (h : q ++ ":" ++ r ∈ accepted backend tool) :
    q ++ ":*" ∈ accepted backend tool ∨ Cut backend tool q := by
  rcases (mem_accepted_iff _ _ _).1 h with h | h | ⟨b, t, hb, ht, h⟩
  · exact absurd h (colon_ne_star q r)
  · exact Or.inr (.inBackend h.symm)
  · rcases colon_split h with ⟨rfl, _⟩ | ⟨s, hs⟩ | ⟨s, rfl, hs⟩
    · exact Or.inl (star_mem_accepted tool hb)
    · rcases hb with rfl | rfl
      · exact absurd hs.symm (colon_ne_star q s)
      · exact Or.inr (.inBackend hs)
    · rcases ht with rfl | rfl
      · exact absurd hs.symm (colon_ne_star s r)
      · rcases hb with rfl | rfl
        · exact Or.inr (.inToolAnywhere hs)
        · exact Or.inr (.inTool hs)

theorem exists_covered_of_cut {backend tool q : String} (h : Cut backend tool q) :
    ∃ c ∈ accepted backend tool, covers (q ++ ":*") c = true := by
  cases h with
  | @inBackend q r h =>
      refine ⟨backend, ?_, ?_⟩
      · rw [mem_accepted_iff]
        exact Or.inr (Or.inl rfl)
      · rw [covers_iff]
        exact Or.inr (Or.inr ⟨q, r, rfl, h⟩)
  | @inTool u r h =>
      refine ⟨backend ++ ":" ++ tool, ?_, ?_⟩
      · rw [mem_accepted_iff]
        exact Or.inr (Or.inr ⟨backend, tool, Or.inr rfl, Or.inr rfl, rfl⟩)
      · rw [covers_iff]
        refine Or.inr (Or.inr ⟨backend ++ ":" ++ u, r, rfl, ?_⟩)
        rw [h]
        simp only [String.append_assoc]
  | @inToolAnywhere u r h =>
      refine ⟨"*" ++ ":" ++ tool, ?_, ?_⟩
      · rw [mem_accepted_iff]
        exact Or.inr (Or.inr ⟨"*", tool, Or.inl rfl, Or.inr rfl, rfl⟩)
      · rw [covers_iff]
        refine Or.inr (Or.inr ⟨"*:" ++ u, r, rfl, ?_⟩)
        rw [h]
        simp only [← String.append_assoc]
        rfl

theorem leaks_of_escalation {parents children : List String} {backend tool : String}
    (hs : isSubset parents children = true)
    (hc : permits (some children) backend tool = true)
    (hp : permits (some parents) backend tool = false) : Leaks parents backend tool := by
  obtain ⟨c, hc, hac⟩ := (permits_some_iff _ _ _).1 hc
  obtain ⟨p, hmem, hpc⟩ := (isSubset_iff _ _).1 hs c hc
  have hap : p ∉ accepted backend tool := by
    intro h
    rw [(permits_some_iff _ _ _).2 ⟨p, hmem, h⟩] at hp
    simp at hp
  rcases (covers_iff _ _).1 hpc with rfl | rfl | ⟨q, r, rfl, rfl⟩
  · exact absurd ((mem_accepted_iff _ _ _).2 (Or.inl rfl)) hap
  · exact absurd hac hap
  · rcases cut_of_covered hac with h | h
    · exact absurd h hap
    · exact ⟨hp, q, h, hmem⟩

theorem exists_escalation_iff (parents : List String) (backend tool : String) :
    (∃ children, isSubset parents children = true ∧
        permits (some children) backend tool = true ∧
        permits (some parents) backend tool = false) ↔ Leaks parents backend tool := by
  constructor
  · rintro ⟨children, hs, hc, hp⟩
    exact leaks_of_escalation hs hc hp
  · rintro ⟨hp, q, hq, hmem⟩
    obtain ⟨c, hc, hcov⟩ := exists_covered_of_cut hq
    refine ⟨[c], ?_, ?_, hp⟩
    · rw [isSubset_iff]
      intro s hs
      rw [List.mem_singleton] at hs
      exact ⟨q ++ ":*", hmem, hs ▸ hcov⟩
    · exact (permits_some_iff _ _ _).2 ⟨c, List.mem_singleton.2 rfl, hc⟩

theorem not_cut_of_no_colon {backend tool : String} (hb : ':' ∉ backend.toList)
    (ht : ':' ∉ tool.toList) (q : String) : ¬ Cut backend tool q := by
  intro h
  cases h with
  | inBackend h => exact hb (by rw [h]; simp)
  | inTool h => exact ht (by rw [h]; simp)
  | inToolAnywhere h => exact ht (by rw [h]; simp)

end Switchboard.Scope
