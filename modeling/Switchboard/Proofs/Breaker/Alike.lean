import Switchboard.Breaker
import Switchboard.Proofs.Number.Arithmetic

namespace Switchboard

namespace Circuit

variable {c : Circuit} {now later : Float}

theorem rested_of_le (h : now ≤ later) (hr : c.rested now = true) : c.rested later = true := by
  unfold rested elapsed at hr ⊢
  cases ht : c.lastFailure with
  | none =>
      rw [ht] at hr
      exact hr
  | some t =>
      rw [ht, Number.leFloat_iff] at hr
      rw [Number.leFloat_iff]
      have hle := ((Number.le_iff now later).1 h).2.2
      exact hr.trans
        (Number.value_mul_le Number.unpack_thousand (Number.value_sub_le hle t))

theorem check_check_of_rested (h : c.rested now = true → c.rested later = true) :
    (c.check now).check later = c.check later := by
  by_cases hr : c.state = .opened ∧ c.rested now = true
  · have hl : c.state = .opened ∧ c.rested later = true := ⟨hr.1, h hr.2⟩
    have hn : c.check now = { c with state := .halfOpen } := if_pos hr
    rw [hn, check_of_not_opened (by simp), check, if_pos hl]
  · have hn : c.check now = c := if_neg hr
    rw [hn]

theorem check_check_self (c : Circuit) (now : Float) : (c.check now).check now = c.check now :=
  check_check_of_rested id

theorem check_check (c : Circuit) (h : now ≤ later) : (c.check now).check later = c.check later :=
  check_check_of_rested (rested_of_le h)

theorem succeed_check (c : Circuit) (now t : Float) : (c.check now).succeed t = c.succeed t := by
  unfold check
  split <;> rfl

theorem fail_check (c : Circuit) (now t : Float) : (c.check now).fail t = c.fail t := by
  unfold check
  split
  · next h => simp [fail, h.1]
  · rfl

end Circuit

namespace Breaker

/-- A look at every circuit at this time would make them the same. -/
structure Alike (now : Float) (b b' : Breaker) : Prop where
  standard : b.standard = b'.standard
  pending : b.pending = b'.pending
  circuits : ∀ id, (b.circuits.get? id).map (·.check now) = (b'.circuits.get? id).map (·.check now)

namespace Alike

variable {now later : Float} {b b' b'' : Breaker}

theorem refl (now : Float) (b : Breaker) : Alike now b b := ⟨rfl, rfl, fun _ => rfl⟩

theorem trans (h : Alike now b b') (h' : Alike now b' b'') : Alike now b b'' :=
  ⟨h.standard.trans h'.standard, h.pending.trans h'.pending,
    fun id => (h.circuits id).trans (h'.circuits id)⟩

theorem after (h : Alike now b b') (hl : now ≤ later) : Alike later b b' where
  standard := h.standard
  pending := h.pending
  circuits id := by
    have hc (c : Option Circuit) : c.map (·.check later) =
        (c.map (·.check now)).map (·.check later) := by
      rw [Option.map_map]
      exact congrArg (c.map ·) (funext fun c => (c.check_check hl).symm)
    rw [hc, h.circuits id, ← hc]

theorem cases (h : Alike now b b') (id : String) :
    (b.circuits.get? id = none ∧ b'.circuits.get? id = none) ∨
      ∃ c c', b.circuits.get? id = some c ∧ b'.circuits.get? id = some c' ∧
        c.check now = c'.check now := by
  have hid := h.circuits id
  cases hc : b.circuits.get? id with
  | none => exact .inl ⟨rfl, by simpa [hc] using hid.symm⟩
  | some c =>
      rw [hc] at hid
      obtain ⟨c', hc', he⟩ := Option.map_eq_some_iff.1 hid.symm
      exact .inr ⟨c, c', rfl, hc', he.symm⟩

theorem put {c c' : Circuit} (h : Alike now b b') (hc : c.check now = c'.check now) (id : String) :
    Alike now { b with circuits := b.circuits.put id c }
      { b' with circuits := b'.circuits.put id c' } where
  standard := h.standard
  pending := h.pending
  circuits k := by
    rw [Roster.get?_put, Roster.get?_put]
    split
    · exact congrArg some hc
    · exact h.circuits k

theorem admission (h : Alike now b b') (id : String) :
    (b.admission id now).val.1 = (b'.admission id now).val.1 ∧
      Alike now (b.admission id now).val.2 (b'.admission id now).val.2 := by
  rcases h.cases id with ⟨hn, hn'⟩ | ⟨c, c', hc, hc', he⟩
  · rw [admission_of_untracked hn, admission_of_untracked hn']
    exact ⟨rfl, h⟩
  · rw [admission_of_tracked hc, admission_of_tracked hc', he]
    exact ⟨rfl, h.put rfl id⟩

theorem retryAfter_admission (h : Alike now b b') (id : String) (t : Float) :
    (b.admission id now).val.2.retryAfter id t = (b'.admission id now).val.2.retryAfter id t := by
  rcases h.cases id with ⟨hn, hn'⟩ | ⟨c, c', hc, hc', he⟩
  · rw [admission_of_untracked hn, admission_of_untracked hn', retryAfter, retryAfter, hn, hn']
  · rw [admission_of_tracked hc, admission_of_tracked hc', retryAfter, retryAfter,
      Roster.get?_put_self, Roster.get?_put_self, he]

theorem status (h : Alike now b b') (id : String) :
    (b.status id now).val.1 = (b'.status id now).val.1 ∧
      Alike now (b.status id now).val.2 (b'.status id now).val.2 := by
  rcases h.cases id with ⟨hn, hn'⟩ | ⟨c, c', hc, hc', he⟩
  · rw [status_of_untracked hn, status_of_untracked hn']
    exact ⟨rfl, h⟩
  · rw [status_of_tracked hc, status_of_tracked hc', he]
    exact ⟨rfl, h.put rfl id⟩

theorem recordSuccess (h : Alike now b b') (id : String) (t : Float) :
    Alike now (b.recordSuccess id t).val (b'.recordSuccess id t).val := by
  rcases h.cases id with ⟨hn, hn'⟩ | ⟨c, c', hc, hc', he⟩
  · simp only [Breaker.recordSuccess, hn, hn', Logged.val_pure]
    exact h
  · simp only [Breaker.recordSuccess, hc, hc', turn]
    rw [← c.succeed_check now t, ← c'.succeed_check now t, he]
    exact h.put rfl id

theorem erasePending (h : Alike now b b') (id : String) :
    Alike now { b with pending := b.pending.erase id } { b' with pending := b'.pending.erase id } :=
  ⟨h.standard, congrArg (Roster.erase · id) h.pending, h.circuits⟩

theorem recordFailure (h : Alike now b b') (id : String) (t : Float) :
    Alike now (b.recordFailure id t).val (b'.recordFailure id t).val := by
  rcases h.cases id with ⟨hn, hn'⟩ | ⟨c, c', hc, hc', he⟩
  · have hl : (b.pending.get? id).getD b.standard = (b'.pending.get? id).getD b'.standard := by
      rw [h.pending, h.standard]
    simp only [Breaker.recordFailure, hn, hn', turn, hl]
    exact (h.erasePending id).put rfl id
  · simp only [Breaker.recordFailure, hc, hc', turn]
    rw [← c.fail_check now t, ← c'.fail_check now t, he]
    exact h.put rfl id

theorem reset (h : Alike now b b') (id : String) : Alike now (b.reset id) (b'.reset id) where
  standard := h.standard
  pending := (h.erasePending id).pending
  circuits k := by
    simp only [Breaker.reset, Roster.get?_erase]
    split
    · rfl
    · exact h.circuits k

end Alike

theorem alike_status (b : Breaker) (id : String) (now : Float) :
    Alike now (b.status id now).val.2 b := by
  cases hc : b.circuits.get? id with
  | none =>
      rw [status_of_untracked hc]
      exact .refl now b
  | some c =>
      rw [status_of_tracked hc]
      have h := (Alike.refl now b).put (c.check_check_self now) id
      rwa [Roster.put_of_get? hc] at h

end Breaker

end Switchboard
