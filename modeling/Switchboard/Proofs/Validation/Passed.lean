import Switchboard.Validation.Reader

namespace Switchboard

namespace Checked

variable {α β : Type}

theorem seq_eq_passed_iff {f : Checked (α → β)} {c : Checked α} {b : β} :
    f <*> c = .passed b ↔ ∃ g a, f = .passed g ∧ c = .passed a ∧ g a = b := by
  change f.ap c = .passed b ↔ _
  cases f <;> cases c <;> simp [ap, map]

theorem map_eq_passed_iff {f : α → β} {c : Checked α} {b : β} :
    f <$> c = .passed b ↔ ∃ a, c = .passed a ∧ f a = b := by
  change (Checked.passed f).ap c = .passed b ↔ _
  cases c <;> simp [ap, map]

theorem within_eq_passed_iff {place : Place} {c : Checked α} {a : α} :
    c.within place = .passed a ↔ c = .passed a := by
  cases c <;> simp [within]

end Checked

namespace Reader

variable {α : Type}

theorem defaulted_eq_passed {members : List (String × Json)} {name : String} {r : Reader α}
    {a b : α} (h : defaulted members name r a = .passed b) : b = a ∨ ∃ j, r j = .passed b := by
  unfold defaulted at h
  split at h
  · exact .inr ⟨_, Checked.within_eq_passed_iff.1 h⟩
  · exact .inl (Checked.passed.inj h).symm

theorem optional_eq_passed {r : Reader α} {j : Json} {a : α}
    (h : optional r j = .passed (some a)) : ∃ j, r j = .passed a := by
  unfold optional at h
  split at h
  · cases h
  · refine ⟨j, ?_⟩
    cases hr : r j with
    | failed issues => simp [hr, Checked.map] at h
    | passed found =>
        rw [hr] at h
        simpa [Checked.map] using h

theorem amount_eq_passed {j : Json} {x : Float} (h : amount j = .passed x) : x ≥ 0.0 := by
  unfold amount at h
  cases hr : real j with
  | failed issues => simp [hr, Checked.andThen] at h
  | passed y =>
      simp only [hr, Checked.andThen] at h
      split at h
      · next hy =>
          cases h
          exact hy
      · cases h

theorem record_eq_passed {stranger : Complaint} {f : List (String × Json) → Checked α} {j : Json}
    {a : α} (h : record stranger f j = .passed a) : ∃ members, f members = .passed a := by
  cases j with
  | obj members => exact ⟨members, h⟩
  | _ => cases h

end Reader

end Switchboard
