import Switchboard.Proofs.Directory.Lifetime
import Switchboard.Proofs.Number.Threshold

namespace Switchboard

open Number

inductive Fault.Overflows : Fault → Prop
  | number (cause : Number.Overflow) : Overflows (.overflow cause)
  | days (days : Int) : Overflows (.tooManyDays days)
  | dayCount : Overflows .dayCountTooWide
  | date : Overflows .dateOutOfRange

theorem Fault.of_bind {α β : Type} {x : Except Fault α} {f : α → Except Fault β} {e : Fault}
    (h : x.bind f = .error e) : x = .error e ∨ ∃ a, f a = .error e := by
  cases x with
  | error fault => exact .inl (congrArg _ (Except.error.inj h))
  | ok a => exact .inr ⟨a, h⟩

namespace Span

theorem overflows_of_checkDays {n : Int} {e : Fault} (h : checkDays n = .error e) :
    e.Overflows := by
  unfold checkDays at h
  dsimp only at h
  split_ifs at h
  · cases h
    exact .dayCount
  · cases h
    exact .days _

theorem overflows_of_ofHours {x : Float} {e : Fault} (h : ofHours x = .error e) :
    e.Overflows := by
  rw [ofHours, ofUnits] at h
  split at h
  · cases h
    exact .number _
  · dsimp only at h
    split at h
    · cases h
      exact .number _
    · exact overflows_of_checkDays h

end Span

namespace Instant

theorem shift_natCast (t : Instant) (n : Nat) : t.shift n =
    if t.micros + n < dayCount * microsPerDay then .ok ⟨t.micros + n⟩ else .error .dateOutOfRange := by
  unfold shift
  dsimp only
  by_cases h : t.micros + n < dayCount * microsPerDay
  · rw [if_pos ⟨by omega, by exact_mod_cast h⟩, if_pos h]
    rfl
  · rw [if_neg (fun hin => h (by exact_mod_cast hin.2)), if_neg h]

theorem overflows_of_shift {t : Instant} {span : Int} {e : Fault} (h : t.shift span = .error e) :
    e.Overflows := by
  unfold shift at h
  dsimp only at h
  split_ifs at h
  cases h
  exact .date

end Instant

namespace Directory

variable {now : Instant} {b : Budget} {e : Fault} {hours : Float}

inductive Endless (now : Instant) (b : Budget) : Prop
  | infinite {hours : Float} : b.ttlHours = some hours → value hours = ⊤ → Endless now b
  | late {hours : Float} {n : Nat} : b.ttlHours = some hours → hours > 0.0 → Span.Measured hours n →
      Instant.dayCount * microsPerDay ≤ now.micros + n → Endless now b

theorem expiryFor_of_zero (ht : b.ttlHours = some hours) (hz : (hours == 0.0) = true) :
    expiryFor now b = .ok none := by
  simp only [expiryFor, ht, hz, if_true]

theorem expiryFor_of_nonzero (ht : b.ttlHours = some hours) (hz : (hours == 0.0) = false) :
    expiryFor now b = (Span.ofHours hours).bind fun span => (now.shift span).map some := by
  simp only [expiryFor, ht, hz, Bool.false_eq_true, if_false, bind]
  cases Span.ofHours hours with
  | error e => rfl
  | ok span =>
      rw [Except.bind, Except.bind]
      cases now.shift span with
      | error e => rfl
      | ok t => rfl

theorem overflows_of_expiryFor (h : expiryFor now b = .error e) : e.Overflows := by
  cases ht : b.ttlHours with
  | none => simp [expiryFor, ht] at h
  | some hours =>
      cases hz : hours == 0.0 with
      | true => simp [expiryFor_of_zero ht hz] at h
      | false =>
          rw [expiryFor_of_nonzero ht hz] at h
          rcases Fault.of_bind h with hs | ⟨span, hspan⟩
          · exact Span.overflows_of_ofHours hs
          · cases hshift : now.shift span with
            | error f =>
                rw [hshift] at hspan
                cases hspan
                exact Instant.overflows_of_shift hshift
            | ok t =>
                rw [hshift] at hspan
                cases hspan

theorem expiryFor_of_measured {n : Nat} (ht : b.ttlHours = some hours) (hpos : hours > 0.0)
    (hs : Span.ofHours hours = Span.checkDays n) :
    (∃ e, expiryFor now b = .error e) ↔ Instant.dayCount * microsPerDay ≤ now.micros + n := by
  rw [expiryFor_of_nonzero ht (beq_zero_of_pos hpos), hs]
  rcases Nat.lt_or_ge (now.micros + n) (Instant.dayCount * microsPerDay) with hin | hlate
  · rw [Span.checkDays_of_short ((Nat.le_add_left _ _).trans_lt hin), Except.bind,
      Instant.shift_natCast, if_pos hin]
    refine iff_of_false ?_ (Nat.not_le.2 hin)
    rintro ⟨e, he⟩
    cases he
  · refine iff_of_true ?_ hlate
    cases hc : Span.checkDays n with
    | error e => exact ⟨e, rfl⟩
    | ok span =>
        obtain rfl := Span.eq_of_checkDays hc
        rw [Except.bind, Instant.shift_natCast, if_neg (Nat.not_lt.2 hlate)]
        exact ⟨_, rfl⟩

theorem expiryFor_of_infinite (ht : b.ttlHours = some hours) (hpos : hours > 0.0)
    (hv : value hours = ⊤) : ∃ e, expiryFor now b = .error e := by
  have hb : Binary.ofFloat? hours = none := by
    by_contra hsome
    obtain ⟨b, hb⟩ := Option.ne_none_iff_exists'.1 hsome
    exact EReal.coe_ne_top _ ((value_of_ofFloat? hb).symm.trans hv)
  rw [expiryFor_of_nonzero ht (beq_zero_of_pos hpos), Span.ofHours, Span.ofUnits, hb]
  exact ⟨_, rfl⟩

theorem endless_of_fails (hv : b.Valid) (h : expiryFor now b = .error e) : Endless now b := by
  cases ht : b.ttlHours with
  | none => simp [expiryFor, ht] at h
  | some hours =>
      obtain ⟨-, hnumber, hle⟩ := (Number.le_iff 0.0 hours).1 (hv.ttl hours ht)
      rw [value_zero] at hle
      have hz : (hours == 0.0) = false := by
        by_contra hz
        rw [expiryFor_of_zero ht (Bool.eq_true_of_not_eq_false hz)] at h
        cases h
      have hpos : hours > 0.0 := by
        rw [Bool.eq_false_iff, ne_eq, beq_zero_iff hnumber] at hz
        exact Number.zero_lt_iff.2 (lt_of_le_of_ne hle (Ne.symm hz))
      induction hr : value hours with
      | bot => exact absurd (hr ▸ hle) (not_le_of_gt (EReal.bot_lt_coe 0))
      | top => exact .infinite ht hr
      | coe r =>
          obtain ⟨n, hmeasured, hs⟩ := Span.ofHours_of_value (EReal.coe_le_coe_iff.1 (hr ▸ hle)) hr
          exact .late ht hpos hmeasured ((expiryFor_of_measured ht hpos hs).1 ⟨e, h⟩)

theorem fails_of_endless (h : Endless now b) : ∃ e, expiryFor now b = .error e := by
  cases h with
  | infinite ht hv =>
      have hpos := Number.zero_lt_iff.2 (hv ▸ EReal.coe_lt_top 0)
      exact expiryFor_of_infinite ht hpos hv
  | late ht hpos hmeasured hlate =>
      obtain ⟨r, hr, hv⟩ := hmeasured.value_eq
      obtain ⟨n, hn, hs⟩ := Span.ofHours_of_value hr hv
      obtain rfl := (hmeasured.mono hn le_rfl).antisymm (hn.mono hmeasured le_rfl)
      exact (expiryFor_of_measured ht hpos hs).2 hlate

theorem expiryFor_fails_iff (hv : b.Valid) : (∃ e, expiryFor now b = .error e) ↔ Endless now b := by
  refine ⟨?_, fails_of_endless⟩
  rintro ⟨e, he⟩
  exact endless_of_fails hv he

end Directory

end Switchboard
