import Switchboard.Proofs.Calendar.Span
import Switchboard.Proofs.Directory.Limits
import Switchboard.Proofs.Directory.Origin
import Switchboard.Proofs.Number.Exact

namespace Switchboard

theorem Instant.micros_shift {t u : Instant} {span : Int} (h : t.shift span = .ok u) :
    (u.micros : Int) = t.micros + span := by
  unfold shift at h
  dsimp only at h
  split_ifs at h with hrange
  cases h
  exact Int.toNat_of_nonneg hrange.1

namespace Directory

def Deed.readings : Deed → List Instant
  | .create _ now => [now.since, now.stamp]
  | .revoke _ => []

/-- The clock never goes back, neither within a creation nor between two. -/
def Forward (deeds : List Deed) : Prop :=
  (deeds.flatMap Deed.readings).Pairwise fun s t => s.micros ≤ t.micros

/-- The clock as it was read for a parent, and then for its child. -/
structure Births (ids : Nat → String) (deeds : List Deed) (p i : Identity) (its own : Readings) :
    Prop where
  parent : CreatedAt ids empty deeds its { p with status := Identity.active }
  child : CreatedAt ids empty deeds own { i with status := Identity.active }
  created : p.created = its.stamp ∧ i.created = own.stamp
  order : its.since.micros ≤ its.stamp.micros ∧ its.stamp.micros ≤ own.since.micros ∧
    own.since.micros ≤ own.stamp.micros

variable {ids : Nat → String} {d : Directory} {id k : String} {i p : Identity} {deeds : List Deed}
  {now its own : Readings}

theorem CreatedAt.newborn (h : CreatedAt ids d deeds now i) :
    i.status = Identity.active ∧ i.created = now.stamp ∧
      expiryFor now.since i.mandate.budget = .ok i.expires := by
  obtain ⟨before, r, after, -, hi⟩ := h
  have hc := createFrom_creation ids (runFrom ids d before) r now
  generalize ((runFrom ids d before).createFrom ids r now).val = made at hc hi
  cases hc with
  | stored hm he _ =>
      cases hi
      exact ⟨rfl, rfl, hm.budget_eq ▸ he⟩
  | _ => cases hi

theorem Forward.within {r : AgentRequest} (h : Forward deeds) (hr : Deed.create r now ∈ deeds) :
    now.since.micros ≤ now.stamp.micros := by
  have hpair := (List.pairwise_flatMap.1 h).1 _ hr
  simpa [Deed.readings] using hpair

theorem Forward.between {before after : List Deed} {r r' : AgentRequest}
    (h : Forward (before ++ after)) (hits : Deed.create r its ∈ before)
    (hown : Deed.create r' own ∈ after) : its.stamp.micros ≤ own.since.micros := by
  rw [Forward, List.flatMap_append, List.pairwise_append] at h
  exact h.2.2 _ (List.mem_flatMap.2 ⟨_, hits, by simp [Deed.readings]⟩) _
    (List.mem_flatMap.2 ⟨_, hown, by simp [Deed.readings]⟩)

theorem exists_births (hclock : Forward deeds) (h : [k, id].Sublist (run ids deeds).agents.ids)
    (hp : (run ids deeds).get? k = some p) (hi : (run ids deeds).get? id = some i) :
    ∃ its own, Births ids deeds p i its own := by
  obtain ⟨before, after, rfl, hk, hid⟩ := precedes_of_sublist h
  have hsplit : run ids (before ++ after) = runFrom ids (run ids before) after := by
    simp [run, runFrom]
  rw [hsplit] at hp hi
  obtain ⟨q, hq⟩ := Option.ne_none_iff_exists'.1 fun hn => (Roster.get?_eq_none_iff _ k).1 hn hk
  obtain ⟨s, hs⟩ := keeps_runFrom ids _ after k q hq
  obtain rfl : { q with status := s } = p := Option.some.inj (hs.symm.trans hp)
  obtain ⟨its, parent, _, _, hparent, -, -, rfl⟩ := createdAt_of_get? hq
  cases origin_runFrom hi with
  | old hj _ => exact absurd (Roster.mem_ids_of_get? hj) hid
  | @new child _ own _ hchild _ _ hi =>
      subst hi
      obtain ⟨hactive, hits, -⟩ := hparent.newborn
      obtain ⟨hactive', hown, -⟩ := hchild.newborn
      obtain ⟨_, hmem⟩ := hparent.mem
      obtain ⟨_, hmem'⟩ := hchild.mem
      refine ⟨its, own, ?_, ?_, ⟨hits, hown⟩,
        hclock.within (List.mem_append_left _ hmem), hclock.between hmem hmem',
        hclock.within (List.mem_append_right _ hmem')⟩
      · rw [← hactive]
        exact hparent.append after
      · rw [← hactive']
        exact hchild.prepend

theorem beq_zero_of_pos {x : Float} (h : x > 0.0) : (x == 0.0) = false := by
  obtain ⟨-, hx, hlt⟩ := (Number.lt_iff 0.0 x).1 h
  rw [Number.value_zero] at hlt
  rw [Bool.eq_false_iff, ne_eq, Number.beq_zero_iff hx]
  exact hlt.ne'

theorem expiryFor_of_pos {now : Instant} {b : Budget} {expires : Option Instant} {x : Float}
    (h : expiryFor now b = .ok expires) (hx : b.ttlHours = some x) (hpos : x > 0.0) :
    ∃ span t, Span.ofHours x = .ok span ∧ expires = some t ∧ (t.micros : Int) = now.micros + span := by
  simp only [expiryFor, hx, beq_zero_of_pos hpos] at h
  cases hs : Span.ofHours x with
  | error e => simp [hs, bind, Except.bind] at h
  | ok span =>
      cases ht : now.shift span with
      | error e => simp [hs, ht, bind, Except.bind] at h
      | ok t =>
          refine ⟨span, t, rfl, ?_, Instant.micros_shift ht⟩
          simpa [hs, ht, bind, Except.bind, eq_comm] using h

theorem lifetime_within_parent :
    (∀ stranger inner j r, AgentRequest.read stranger inner j = .passed r → r.budget.Valid) ∧
    ∀ (ids : Nat → String) (deeds : List Deed), Forward deeds →
      (∀ r now, Deed.create r now ∈ deeds → r.budget.Valid) →
      ∀ (id : String) (i p : Identity) (x y : Float),
        (run ids deeds).get? id = some i → (run ids deeds).parentOf i = some p →
        i.mandate.budget.ttlHours = some x → x > 0.0 → p.mandate.budget.ttlHours = some y →
        ∃ its own e f passed, Births ids deeds p i its own ∧ i.expires = some e ∧
          p.expires = some f ∧ own.since.micros = its.since.micros + passed ∧
          e.micros ≤ f.micros + passed := by
  refine ⟨fun _ _ _ _ => AgentRequest.valid_of_read, ?_⟩
  intro ids deeds hclock hd id i p x y hi hp hx hpos hy
  obtain ⟨hget, hsub, hc⟩ := (kinship_run ids deeds).parentOf_eq hi hp
  have hv := valid_run ids deeds hd
  have hle : Number.value x ≤ Number.value y :=
    value_le_of_not_gt ((hv id i hi).ttl x hx) ((hv p.id p hget).ttl y hy) (hc.budget.ttl x y hx hy)
  obtain ⟨h0, -, hlt⟩ := (Number.lt_iff 0.0 x).1 hpos
  have hy0 := ((Number.le_iff 0.0 y).1 ((hv p.id p hget).ttl y hy)).2.1
  have hypos : y > 0.0 := (Number.lt_iff 0.0 y).2 ⟨h0, hy0, hlt.trans_le hle⟩
  have hzero : Number.value 0.0 = 0 := by rfl
  obtain ⟨its, own, hbirths⟩ := exists_births hclock hsub hget hi
  obtain ⟨a, e, ha, he, heq⟩ := expiryFor_of_pos hbirths.child.newborn.2.2 hx hpos
  obtain ⟨b, f, hb, hf, hfq⟩ := expiryFor_of_pos hbirths.parent.newborn.2.2 hy hypos
  have hab : a ≤ b := Span.ofHours_mono (hzero ▸ hlt.le) hle ha hb
  obtain ⟨passed, hpassed⟩ :=
    Nat.exists_eq_add_of_le (hbirths.order.1.trans hbirths.order.2.1)
  exact ⟨its, own, e, f, passed, hbirths, he, hf, hpassed, by omega⟩

def lodgers : List Deed :=
  [.create ⟨"root", "tenant", none, ["*"], ⟨none, none, some 1.0⟩⟩
      ⟨.epoch, ⟨Instant.epoch.micros + 9⟩⟩,
    .create ⟨"child", "tenant", some "agent-1", ["*"], ⟨none, none, some 1.0⟩⟩
      ⟨⟨Instant.epoch.micros + 1800000000⟩, ⟨Instant.epoch.micros + 1800000007⟩⟩]

theorem forward_lodgers : Forward lodgers := by
  simp [Forward, lodgers, Deed.readings]

theorem valid_lodgers (r : AgentRequest) (now : Readings) (h : Deed.create r now ∈ lodgers) :
    r.budget.Valid := by
  simp only [lodgers, List.mem_cons, Deed.create.injEq, List.not_mem_nil, or_false] at h
  rcases h with ⟨rfl, -⟩ | ⟨rfl, -⟩
  all_goals
    refine ⟨fun x hx => ?_, fun x hx => ?_⟩
    · cases hx
    · cases hx
      decide

theorem stored_lodgers :
    ∃ i p, (run agentId lodgers).get? "agent-2" = some i ∧
      (run agentId lodgers).parentOf i = some p ∧ i.mandate.budget.ttlHours = some 1.0 ∧
      p.mandate.budget.ttlHours = some 1.0 ∧
      i.expires = some ⟨Instant.epoch.micros + 5400000000⟩ ∧
      p.expires = some ⟨Instant.epoch.micros + 3600000000⟩ := by
  have hi : ((run agentId lodgers).get? "agent-2").map
      (fun i => (i.mandate.parent, i.mandate.budget.ttlHours, i.expires)) =
      some (some "agent-1", some 1.0, some ⟨Instant.epoch.micros + 5400000000⟩) := by
    decide +kernel
  have hp : ((run agentId lodgers).get? "agent-1").map
      (fun p => (p.mandate.budget.ttlHours, p.expires)) =
      some (some 1.0, some ⟨Instant.epoch.micros + 3600000000⟩) := by
    decide +kernel
  obtain ⟨i, hi, heq⟩ := Option.map_eq_some_iff.1 hi
  obtain ⟨p, hp, hpq⟩ := Option.map_eq_some_iff.1 hp
  obtain ⟨hparent, httl, hexpires⟩ := by simpa only [Prod.mk.injEq] using heq
  obtain ⟨hpttl, hpexpires⟩ := by simpa only [Prod.mk.injEq] using hpq
  have hparentOf : (run agentId lodgers).parentOf i = some p := by
    rw [parentOf, hparent, Option.bind_some, hp]
  exact ⟨i, p, hi, hparentOf, httl, hpttl, hexpires, hpexpires⟩

theorem lifetime_within_lodger :
    Forward lodgers ∧ ∃ i p, (run agentId lodgers).get? "agent-2" = some i ∧
      (run agentId lodgers).parentOf i = some p ∧
      ∃ its own e f passed, Births agentId lodgers p i its own ∧ i.expires = some e ∧
        p.expires = some f ∧ own.since.micros = its.since.micros + passed ∧
        e.micros ≤ f.micros + passed := by
  obtain ⟨i, p, hi, hp, hx, hy, -⟩ := stored_lodgers
  exact ⟨forward_lodgers, i, p, hi, hp, lifetime_within_parent.2 agentId lodgers forward_lodgers
    valid_lodgers "agent-2" i p 1.0 1.0 hi hp hx (by decide) hy⟩

theorem lodger_outlives_parent :
    Forward lodgers ∧ (∀ r now, Deed.create r now ∈ lodgers → r.budget.Valid) ∧
      ∃ i p e f, (run agentId lodgers).get? "agent-2" = some i ∧
        (run agentId lodgers).parentOf i = some p ∧ i.mandate.budget.ttlHours.isSome = true ∧
        p.mandate.budget.ttlHours.isSome = true ∧ i.expires = some e ∧ p.expires = some f ∧
        ¬ e.micros ≤ f.micros := by
  obtain ⟨i, p, hi, hp, hx, hy, he, hf⟩ := stored_lodgers
  refine ⟨forward_lodgers, valid_lodgers, i, p, _, _, hi, hp, ?_, ?_, he, hf, ?_⟩
  · rw [hx]
    rfl
  · rw [hy]
    rfl
  · simp

end Directory

end Switchboard
