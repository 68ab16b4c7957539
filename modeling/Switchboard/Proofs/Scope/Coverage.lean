import Switchboard.Proofs.Scope.Wildcard

namespace Switchboard.Scope

theorem covers_trans {a b c : String} (hab : covers a b = true) (hbc : covers b c = true) :
    covers a c = true := by
  rcases (covers_iff a b).1 hab with rfl | rfl | ⟨q, r, rfl, rfl⟩
  · exact (covers_iff _ _).2 (.inl rfl)
  · exact hbc
  · refine (covers_iff _ _).2 (.inr (.inr ?_))
    rcases (covers_iff _ c).1 hbc with hstar | rfl | ⟨p, s, hp, rfl⟩
    · exact absurd hstar (colon_ne_star q r)
    · exact ⟨q, r, rfl, rfl⟩
    -- a wildcard under a wildcard names more before its star, which is never the colon above
    · have hsplit : q ++ ":" ++ r = p ++ ":" ++ "*" := by
        rw [hp, String.append_assoc]
        rfl
      rcases colon_split hsplit with ⟨rfl, _⟩ | ⟨t, rfl⟩ | ⟨t, _, hstar⟩
      · exact ⟨q, s, rfl, rfl⟩
      · exact ⟨q, t ++ ":" ++ s, rfl, by simp [String.append_assoc]⟩
      · exact absurd hstar.symm (colon_ne_star t r)

theorem isSubset_refl (scopes : List String) : isSubset scopes scopes = true :=
  (isSubset_iff scopes scopes).2 fun c hc => ⟨c, hc, covers_self c⟩

theorem isSubset_trans {ks ls ms : List String} (hkl : isSubset ks ls = true)
    (hlm : isSubset ls ms = true) : isSubset ks ms = true := by
  rw [isSubset_iff] at hkl hlm ⊢
  intro m hm
  obtain ⟨l, hl, hlm⟩ := hlm m hm
  obtain ⟨k, hk, hkl⟩ := hkl l hl
  exact ⟨k, hk, covers_trans hkl hlm⟩

end Switchboard.Scope
