import Switchboard.Proofs.Breaker.History

namespace Switchboard.Breaker

/-- What a service does to a circuit at a reading of the clock. It never sets limits. -/
inductive Act.Served (now : Float) : Act → Prop
  | ask : Served now (.ask now)
  | status : Served now (.status now)
  | succeed : Served now (.succeed now)
  | fail : Served now (.fail now)
  | reset : Served now .reset

def Keeps (now : Float) (P : Breaker → Prop) : Prop :=
  ∀ b id (a : Act), a.Served now → P b → P (b.act id a)

variable {limits : CircuitLimits} {Q : Float → Prop} {now : Float} {id k : String}
  {b b' b'' : Breaker} {c : Circuit}

structure Standard (limits : CircuitLimits) (Q : Float → Prop) (b : Breaker) : Prop where
  standard : b.standard = limits
  pending : ∀ id, b.pending.get? id = none
  limits : ∀ id c, b.circuits.get? id = some c → c.limits = limits
  failed : ∀ id c, b.circuits.get? id = some c → ∃ t, c.lastFailure = some t ∧ Q t

theorem standard_start (limits : CircuitLimits) (Q : Float → Prop) :
    (start limits).Standard limits Q where
  standard := rfl
  pending _ := rfl
  limits _ _ h := by cases h
  failed _ _ h := by cases h

theorem Standard.put (h : b.Standard limits Q) (hl : c.limits = limits)
    (hf : ∃ t, c.lastFailure = some t ∧ Q t) (id : String) :
    { b with circuits := b.circuits.put id c }.Standard limits Q where
  standard := h.standard
  pending := h.pending
  limits k d hd := by
    rw [Roster.get?_put] at hd
    split at hd
    · cases hd
      exact hl
    · exact h.limits k d hd
  failed k d hd := by
    rw [Roster.get?_put] at hd
    split at hd
    · cases hd
      exact hf
    · exact h.failed k d hd

theorem act_cases {a : Act} (ha : a.Served now) (b : Breaker) (id : String) :
    b.act id a = b ∨
      (∃ c d, b.circuits.get? id = some c ∧ b.act id a = { b with circuits := b.circuits.put id d } ∧
        d.limits = c.limits ∧
        (d.lastFailure = c.lastFailure ∨ a = .fail now ∧ d.lastFailure = some now)) ∨
      (a = .fail now ∧ b.act id a = ⟨b.standard, b.circuits.put id
        ((Circuit.fresh ((b.pending.get? id).getD b.standard)).fail now), b.pending.erase id⟩) ∨
      b.act id a = b.reset id := by
  cases hc : b.circuits.get? id with
  | none =>
      cases ha with
      | ask => exact .inl (by rw [act, admission_of_untracked hc])
      | status => exact .inl (by rw [act, status_of_untracked hc])
      | succeed => exact .inl (by simp only [act, recordSuccess, hc, Logged.val_pure])
      | fail => exact .inr (.inr (.inl ⟨rfl, by simp only [act, recordFailure, hc, turn]⟩))
      | reset => exact .inr (.inr (.inr rfl))
  | some c =>
      cases ha with
      | ask =>
          exact .inr (.inl ⟨c, _, rfl, by rw [act, admission_of_tracked hc], c.check_limits now,
            .inl (c.check_lastFailure now)⟩)
      | status =>
          exact .inr (.inl ⟨c, _, rfl, by rw [act, status_of_tracked hc], c.check_limits now,
            .inl (c.check_lastFailure now)⟩)
      | succeed =>
          exact .inr (.inl ⟨c, c.succeed now, rfl, by simp only [act, recordSuccess, hc, turn], rfl,
            .inl rfl⟩)
      | fail =>
          exact .inr (.inl ⟨c, c.fail now, rfl, by simp only [act, recordFailure, hc, turn], rfl,
            .inr ⟨rfl, rfl⟩⟩)
      | reset => exact .inr (.inr (.inr rfl))

theorem Standard.keeps (hq : Q now) : Keeps now fun b => b.Standard limits Q := by
  intro b id a ha h
  rcases act_cases ha b id with hb | ⟨c, d, hc, hb, hl, hf⟩ | ⟨-, hb⟩ | hb <;> rw [hb]
  · exact h
  · refine h.put (hl.trans (h.limits id c hc)) ?_ id
    rcases hf with hf | ⟨-, hf⟩
    · rw [hf]
      exact h.failed id c hc
    · exact ⟨now, hf, hq⟩
  · rw [h.pending id, Option.getD_none, h.standard]
    have hput := h.put (c := (Circuit.fresh limits).fail now) rfl ⟨now, rfl, hq⟩ id
    exact ⟨rfl, fun k => by simp [Roster.get?_erase, h.pending], hput.limits, hput.failed⟩
  · have herased {k : String} {c : Circuit} (hk : (b.reset id).circuits.get? k = some c) :
        b.circuits.get? k = some c := by
      rw [reset, Roster.get?_erase] at hk
      split at hk
      · cases hk
      · exact hk
    exact ⟨h.standard, fun k => by simp [reset, Roster.get?_erase, h.pending],
      fun k c hk => h.limits k c (herased hk), fun k c hk => h.failed k c (herased hk)⟩

def failedAt? (b : Breaker) (id : String) : Option Float :=
  (b.circuits.get? id).bind Circuit.lastFailure

def Spares (id : String) (b b' : Breaker) : Prop :=
  b'.failedAt? id = none ∨ b'.failedAt? id = b.failedAt? id

theorem Spares.refl (id : String) (b : Breaker) : b.Spares id b := .inr rfl

theorem Spares.trans (h : b.Spares id b') (h' : b'.Spares id b'') : b.Spares id b'' := by
  rcases h' with h' | h'
  · exact .inl h'
  · rcases h with h | h
    · exact .inl (h'.trans h)
    · exact .inr (h'.trans h)

theorem Spares.lastFailure {c' : Circuit} (h : b.Spares id b') (hc : b.circuits.get? id = some c)
    (hc' : b'.circuits.get? id = some c') (hf : c'.lastFailure ≠ none) :
    c'.lastFailure = c.lastFailure := by
  simp only [Spares, failedAt?, hc, hc', Option.bind_some] at h
  exact h.resolve_left hf

theorem spares_act {a : Act} (ha : a.Served now) (h : a = .fail now → k ≠ id) (b : Breaker) :
    b.Spares id (b.act k a) := by
  by_cases hk : id = k
  · subst hk
    rcases act_cases ha b id with hb | ⟨c, d, hc, hb, -, hf⟩ | ⟨hfail, -⟩ | hb
    · rw [hb]
      exact .refl id b
    · rw [hb]
      rcases hf with hf | ⟨hfail, -⟩
      · exact .inr (by simp [failedAt?, hc, Roster.get?_put_self, hf])
      · exact absurd rfl (h hfail)
    · exact absurd rfl (h hfail)
    · rw [hb]
      exact .inl (by simp [failedAt?, reset, Roster.get?_erase])
  · exact .inr (congrArg (Option.bind · _) (act_of_ne hk b a).1)

theorem spares_acts {es : List Event}
    (h : ∀ e ∈ es, (∃ now, e.act.Served now) ∧ (e.act.fails = true → e.backend ≠ id)) (b : Breaker) :
    b.Spares id (es.foldl (fun b e => b.act e.backend e.act) b) := by
  induction es generalizing b with
  | nil => exact .refl id b
  | cons e es ih =>
      obtain ⟨⟨⟨now, hserved⟩, hother⟩, h⟩ := List.forall_mem_cons.1 h
      refine (spares_act hserved (fun hf => hother ?_) b).trans (ih h _)
      rw [hf]
      rfl

end Switchboard.Breaker
