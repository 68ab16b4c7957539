import Mathlib.Data.List.DropRight
import Switchboard.Proofs.Breaker.Run

namespace Switchboard.Breaker

namespace Act

def fails : Act → Bool
  | .fail _ => true
  | _ => false

def resets : Act → Bool
  | .reset => true
  | _ => false

def clears : Act → Bool
  | .succeed _ => true
  | .reset => true
  | _ => false

def limits? : Act → Option CircuitLimits
  | .configure limits => some limits
  | _ => none

def failedAt? : Act → Option Float
  | .fail now => some now
  | _ => none

def checkedAt? : Act → Option Float
  | .ask now => some now
  | .status now => some now
  | _ => none

end Act

def failuresSince (h : List Act) : Nat := (h.rtakeWhile (fun a => !a.clears)).countP Act.fails

def inForce (standard : CircuitLimits) (h : List Act) : CircuitLimits :=
  ((h.rtakeWhile (fun a => !a.resets)).filterMap Act.limits?).getLast?.getD standard

def lastFailure (h : List Act) : Option Float := (h.filterMap Act.failedAt?).getLast?

/-- Since the last success or reset some failure made their number reach the threshold. -/
def Tripped (standard : CircuitLimits) (h : List Act) : Prop :=
  ∃ before now after, h = before ++ .fail now :: after ∧ (∀ a ∈ after, a.clears = false) ∧
    (inForce standard before).threshold ≤ failuresSince before + 1

/-- Some check since the last failure found that the rest is over. -/
def Rested (standard : CircuitLimits) (h : List Act) : Prop :=
  ∃ before a after now t, h = before ++ a :: after ∧ a.checkedAt? = some now ∧
    (∀ a ∈ after, a.fails = false) ∧ lastFailure before = some t ∧
    Number.leFloat (inForce standard before).resetMs ((now - t) * 1000.0) = true

variable {standard : CircuitLimits} {h : List Act} {a : Act}

@[simp] theorem failuresSince_nil : failuresSince [] = 0 := by simp [failuresSince]

@[simp] theorem inForce_nil : inForce standard [] = standard := by simp [inForce]

theorem failuresSince_concat (h : List Act) (a : Act) :
    failuresSince (h ++ [a]) =
      if a.clears then 0 else failuresSince h + if a.fails then 1 else 0 := by
  unfold failuresSince
  cases hc : a.clears with
  | true => rw [List.rtakeWhile_concat_neg _ _ _ (by simp [hc])]; rfl
  | false =>
      rw [List.rtakeWhile_concat_pos _ _ _ (by simp [hc]), List.countP_append, List.countP_singleton]
      rfl

theorem inForce_concat (standard : CircuitLimits) (h : List Act) (a : Act) :
    inForce standard (h ++ [a]) =
      if a.resets then standard else a.limits?.getD (inForce standard h) := by
  unfold inForce
  cases hr : a.resets with
  | true => rw [List.rtakeWhile_concat_neg _ _ _ (by simp [hr])]; rfl
  | false =>
      rw [List.rtakeWhile_concat_pos _ _ _ (by simp [hr]), List.filterMap_append]
      cases hl : a.limits? with
      | none => simp [hl]
      | some limits => simp [hl]

theorem lastFailure_concat (h : List Act) (a : Act) :
    lastFailure (h ++ [a]) = a.failedAt?.or (lastFailure h) := by
  unfold lastFailure
  rw [List.filterMap_append]
  cases hf : a.failedAt? with
  | none => simp [hf]
  | some now => simp [hf]

theorem concat_eq_append_cons_iff {α : Type} {l before after : List α} {x y : α} :
    l ++ [x] = before ++ y :: after ↔
      (after = [] ∧ l = before ∧ x = y) ∨
        ∃ rest, after = rest ++ [x] ∧ l = before ++ y :: rest := by
  rcases List.eq_nil_or_concat after with rfl | ⟨rest, z, rfl⟩
  · constructor
    · intro h
      obtain ⟨hl, hx⟩ := List.append_singleton_inj.1 h
      exact Or.inl ⟨rfl, hl, hx⟩
    · rintro (⟨_, rfl, rfl⟩ | ⟨rest, hr, _⟩)
      · rfl
      · simp at hr
  · have hs : before ++ y :: (rest ++ [z]) = (before ++ y :: rest) ++ [z] := by simp
    rw [List.concat_eq_append, hs, List.append_singleton_inj]
    constructor
    · rintro ⟨rfl, rfl⟩
      exact Or.inr ⟨rest, rfl, rfl⟩
    · rintro (⟨hr, _⟩ | ⟨rest', hr, rfl⟩)
      · simp at hr
      · obtain ⟨rfl, rfl⟩ := List.append_singleton_inj.1 hr
        exact ⟨rfl, rfl⟩

theorem tripped_concat :
    Tripped standard (h ++ [a]) ↔
      (a.fails = true ∧ (inForce standard h).threshold ≤ failuresSince h + 1) ∨
        (a.clears = false ∧ Tripped standard h) := by
  constructor
  · rintro ⟨before, now, after, hs, hc, ht⟩
    rcases concat_eq_append_cons_iff.1 hs with ⟨rfl, rfl, rfl⟩ | ⟨rest, rfl, rfl⟩
    · exact Or.inl ⟨rfl, ht⟩
    · refine Or.inr ⟨hc a (by simp), before, now, rest, rfl, ?_, ht⟩
      intro b hb
      exact hc b (by simp [hb])
  · rintro (⟨hf, ht⟩ | ⟨ha, before, now, rest, rfl, hc, ht⟩)
    · cases a with
      | fail now => exact ⟨h, now, [], rfl, by simp, ht⟩
      | _ => simp [Act.fails] at hf
    · refine ⟨before, now, rest ++ [a], by simp, ?_, ht⟩
      intro b hb
      rcases List.mem_append.1 hb with hb | hb
      · exact hc b hb
      · rw [List.mem_singleton] at hb
        exact hb ▸ ha

theorem rested_concat :
    Rested standard (h ++ [a]) ↔
      (∃ now t, a.checkedAt? = some now ∧ lastFailure h = some t ∧
        Number.leFloat (inForce standard h).resetMs ((now - t) * 1000.0) = true) ∨
        (a.fails = false ∧ Rested standard h) := by
  constructor
  · rintro ⟨before, b, after, now, t, hs, hb, hc, hl, hr⟩
    rcases concat_eq_append_cons_iff.1 hs with ⟨rfl, rfl, rfl⟩ | ⟨rest, rfl, rfl⟩
    · exact Or.inl ⟨now, t, hb, hl, hr⟩
    · refine Or.inr ⟨hc a (by simp), before, b, rest, now, t, rfl, hb, ?_, hl, hr⟩
      intro x hx
      exact hc x (by simp [hx])
  · rintro (⟨now, t, ha, hl, hr⟩ | ⟨ha, before, b, rest, now, t, rfl, hb, hc, hl, hr⟩)
    · exact ⟨h, a, [], now, t, rfl, ha, by simp, hl, hr⟩
    · refine ⟨before, b, rest ++ [a], now, t, by simp, hb, ?_, hl, hr⟩
      intro x hx
      rcases List.mem_append.1 hx with hx | hx
      · exact hc x hx
      · rw [List.mem_singleton] at hx
        exact hx ▸ ha

theorem not_tripped_nil : ¬ Tripped standard [] := by
  rintro ⟨before, now, after, hs, _⟩
  simp at hs

end Switchboard.Breaker
