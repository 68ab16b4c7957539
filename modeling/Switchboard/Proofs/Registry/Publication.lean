import Switchboard.Proofs.History
import Switchboard.Proofs.Registry.Run

namespace Switchboard

open Discovery (Entry Index)

namespace Registry

def standing (h : List (Deed × Bool)) : List Backend :=
  lasting (fun e => if e.2 then e.1.registered? else none) (fun b e => e.1.unregisters b.id) h

def changes (h : List (Deed × Bool)) : Nat := h.countP (fun e => e.1.changes && e.2)

/-- For each subscription one call at once, and one for each change since. -/
def calls (l : Listener) : List (Deed × Bool) → Nat
  | [] => 0
  | e :: after => (if e.1.listener? = some l then 1 + changes after else 0) + calls l after

def Past.heard (p : Past) : Listener → Nat
  | .named name => (p.registry.heardBy name).length
  | .index => p.notices.length

variable {r : Registry} {id : String}

theorem standing_concat (h : List (Deed × Bool)) (deed : Deed) (heeded : Bool) :
    standing (h ++ [(deed, heeded)]) =
      (standing h).filter (fun b => !deed.unregisters b.id) ++
        (if heeded then deed.registered? else none).toList :=
  lasting_concat _ _ _ _

theorem map_unchecked_filter (bs : List Backend) (p : String → Bool) :
    (bs.filter (fun b => p b.id)).map Backend.unchecked =
      (bs.map Backend.unchecked).filter (fun b => p b.id) := by
  rw [List.filter_map]
  rfl

theorem exists_setHealth (r : Registry) (id : String) (health : Option Bool) :
    ∃ bs, r.setHealth id health = { r with backends := bs } ∧
      bs.values.map Backend.unchecked = r.backends.values.map Backend.unchecked := by
  unfold Registry.setHealth
  cases health with
  | none => exact ⟨r.backends, rfl, rfl⟩
  | some healthy =>
      cases hg : r.backends.get? id with
      | none => exact ⟨r.backends, rfl, rfl⟩
      | some b =>
          refine ⟨_, rfl, ?_⟩
          rw [Roster.values_put_of_mem _ _ (Roster.mem_ids_of_get? hg), Roster.values,
            List.map_map, List.map_map]
          apply List.map_congr_left
          intro e he
          simp only [Function.comp_apply]
          split
          · next hid =>
              have hb := (Roster.get?_eq_some_iff r.backends id e.2).2 (hid ▸ he)
              rw [hg, Option.some.injEq] at hb
              rw [hb]
              rfl
          · rfl

theorem catalogue_eq_unchecked (r : Registry) :
    r.catalogue = (r.backends.values.map Backend.unchecked).flatMap entriesOf := by
  rw [List.flatMap_map]
  rfl

def Stands (h : List (Deed × Bool)) (r : Registry) : Prop :=
  r.backends.values.map Backend.unchecked = (standing h).map Backend.unchecked

variable {h : List (Deed × Bool)} {deed : Deed} {heeded : Bool}

theorem Stands.ids_eq (hr : Stands h r) (hs : r.Sound) : r.ids = (standing h).map Backend.id := by
  have hm (bs : List Backend) : bs.map Backend.id = (bs.map Backend.unchecked).map Backend.id := by
    rw [List.map_map]
    rfl
  rw [hs.ids_eq, hm, hr, ← hm]

theorem Stands.kept {after : Registry} (hr : Stands h r)
    (hn : ∀ b ∈ standing h, deed.unregisters b.id = false)
    (hb : (if heeded then deed.registered? else none) = none)
    (ha : after.backends.values.map Backend.unchecked =
      r.backends.values.map Backend.unchecked) : Stands (h ++ [(deed, heeded)]) after := by
  have hf : (standing h).filter (fun b => !deed.unregisters b.id) = standing h := by
    rw [List.filter_eq_self]
    intro b hb
    rw [hn b hb]
    rfl
  rw [Stands, standing_concat, hf, hb, ha, hr]
  exact congrArg _ (List.append_nil _).symm

theorem stands_turn {after : Logged Registry} (ht : Turn r deed heeded after) (hs : r.Sound)
    (hr : Stands h r) : Stands (h ++ [(deed, heeded)]) after.val := by
  cases ht with
  | @registered b hn hd =>
      have hf : (standing h).filter (fun c => !(Deed.register b).unregisters c.id) = standing h :=
        List.filter_eq_self.2 fun _ _ => rfl
      rw [announce_eq, Stands, standing_concat, hf]
      change (r.backends.put b.id b).values.map _ = _
      rw [Roster.values_put_of_not_mem _ _ hn, List.map_append, List.map_append, hr]
      rfl
  | @unregistered id hi =>
      have hf : (standing h).filter (fun b => !(Deed.unregister id).unregisters b.id) =
          (standing h).filter (fun b => b.id ≠ id) := by
        apply List.filter_congr
        intro b _
        simp [Deed.unregisters, eq_comm]
      rw [announce_eq, Stands, standing_concat, hf]
      change (r.backends.erase id).values.map _ = (_ ++ []).map _
      rw [Roster.values_erase hs.named, List.append_nil, map_unchecked_filter _ (· ≠ id),
        map_unchecked_filter _ (· ≠ id), hr]
  | refused _ => exact hr.kept (fun _ _ => rfl) rfl rfl
  | @unknown id hi =>
      refine hr.kept ?_ rfl rfl
      intro b hb
      have hne : id ≠ b.id := by
        rintro rfl
        exact hi (hr.ids_eq hs ▸ List.mem_map_of_mem hb)
      exact decide_eq_false hne
  | subscribed => exact hr.kept (fun _ _ => rfl) rfl rfl
  | @reported id healthy =>
      obtain ⟨bs, hbs, hu⟩ := r.exists_setHealth id (some healthy)
      exact hr.kept (fun _ _ => rfl) rfl (hbs ▸ hu)

theorem stands_past (deeds : List Deed) :
    Stands (past deeds).deeds (past deeds).registry := by
  induction deeds using List.reverseRecOn with
  | nil => rfl
  | append_singleton deeds deed ih =>
      rw [past_concat]
      exact stands_turn (act_turn _ deed) (sound_past deeds) ih

theorem Stands.catalogue_eq (hr : Stands h r) : r.catalogue = (standing h).flatMap entriesOf := by
  rw [catalogue_eq_unchecked, hr, List.flatMap_map]
  rfl

theorem told_nil (r : Registry) (es : List Entry) : r.told es [] = pure r := by
  simp [told, pure]

def audience (r : Registry) (deed : Deed) (heeded : Bool) : List Listener :=
  if deed.changes && heeded then r.listeners else deed.listener?.toList

theorem publishes_turn {after : Logged Registry} (ht : Turn r deed heeded after) :
    ∃ next : Registry, after = next.told next.catalogue (audience r deed heeded) ∧
      next.listeners = r.listeners ++ deed.listener?.toList ∧
      next.deliveries = r.deliveries ∧ next.index = r.index ∧
      ∀ l ∈ next.listeners, l ∈ audience r deed heeded ∨
        l ∈ r.listeners ∧ next.catalogue = r.catalogue := by
  cases ht with
  | registered _ _ =>
      exact ⟨_, announce_eq _, (List.append_nil _).symm, rfl, rfl, fun l hl => .inl hl⟩
  | unregistered _ =>
      exact ⟨_, announce_eq _, (List.append_nil _).symm, rfl, rfl, fun l hl => .inl hl⟩
  | refused _ =>
      exact ⟨r, (told_nil _ _).symm, (List.append_nil _).symm, rfl, rfl, fun l hl => .inr ⟨hl, rfl⟩⟩
  | unknown _ =>
      exact ⟨r, (told_nil _ _).symm, (List.append_nil _).symm, rfl, rfl, fun l hl => .inr ⟨hl, rfl⟩⟩
  | @subscribed l =>
      refine ⟨{ r with listeners := r.listeners ++ [l] }, rfl, rfl, rfl, rfl, fun k hk => ?_⟩
      rcases List.mem_append.1 hk with hk | hk
      · exact .inr ⟨hk, rfl⟩
      · exact .inl hk
  | @reported id healthy =>
      obtain ⟨bs, hbs, hu⟩ := r.exists_setHealth id (some healthy)
      have hc : catalogue { r with backends := bs } = r.catalogue := by
        rw [catalogue_eq_unchecked, catalogue_eq_unchecked r, ← hu]
      rw [hbs]
      exact ⟨{ r with backends := bs }, (told_nil _ _).symm, (List.append_nil _).symm, rfl, rfl,
        fun l hl => .inr ⟨hl, hc⟩⟩

theorem calls_concat (l : Listener) (h : List (Deed × Bool)) (e : Deed × Bool) :
    calls l (h ++ [e]) = calls l h +
      ((if e.1.changes && e.2 then (h.filterMap (·.1.listener?)).count l else 0) +
        if e.1.listener? = some l then 1 else 0) := by
  induction h with
  | nil => simp [calls, changes]
  | cons d h ih =>
      have hc : changes (h ++ [e]) = changes h + if e.1.changes && e.2 then 1 else 0 := by
        rw [changes, changes, List.countP_append, List.countP_singleton]
      have hm : ((d :: h).filterMap (·.1.listener?)).count l =
          (h.filterMap (·.1.listener?)).count l + if d.1.listener? = some l then 1 else 0 := by
        cases hd : d.1.listener? with
        | none => simp [hd]
        | some k => simp [hd, List.count_cons]
      rw [List.cons_append, calls, ih, hc, hm, calls]
      split <;> split <;> omega

theorem count_audience (r : Registry) (deed : Deed) (heeded : Bool) (l : Listener) :
    (audience r deed heeded).count l = (if deed.changes && heeded then r.listeners.count l else 0) +
      if deed.listener? = some l then 1 else 0 := by
  cases deed with
  | register b => cases heeded <;> simp [audience, Deed.changes, Deed.listener?]
  | unregister id => cases heeded <;> simp [audience, Deed.changes, Deed.listener?]
  | subscribe k => simp [audience, Deed.changes, Deed.listener?, List.count_cons]
  | report id healthy => simp [audience, Deed.changes, Deed.listener?]

structure InStep (p : Past) : Prop where
  listeners : p.registry.listeners = p.deeds.filterMap (·.1.listener?)
  heard : ∀ l, p.heard l = calls l p.deeds
  latest : ∀ name, .named name ∈ p.registry.listeners →
    (p.registry.heardBy name).getLast? = some p.registry.catalogue
  index : .index ∈ p.registry.listeners → p.registry.index = .build p.registry.catalogue

theorem heard_told {p : Past} {next : Registry} (hd : next.deliveries = p.registry.deliveries)
    (ls : List Listener) (deeds : List (Deed × Bool)) (l : Listener) :
    let told := next.told next.catalogue ls
    Past.heard ⟨deeds, told.val, p.notices ++ told.notices⟩ l = p.heard l + ls.count l := by
  cases l with
  | named name =>
      have hn : next.heardBy name = p.registry.heardBy name := by rw [heardBy, hd, heardBy]
      simp only [Past.heard, heardBy_told, hn, List.length_append, List.length_replicate]
  | index => simp only [Past.heard, told, List.length_append, List.length_replicate]

theorem inStep_turn {p : Past} {after : Logged Registry} (ht : Turn p.registry deed heeded after)
    (h : InStep p) :
    InStep ⟨p.deeds ++ [(deed, heeded)], after.val, p.notices ++ after.notices⟩ := by
  obtain ⟨next, rfl, hl, hd, hi, ha⟩ := publishes_turn ht
  constructor
  · have hs : [(deed, heeded)].filterMap (·.1.listener?) = deed.listener?.toList := by
      cases hk : deed.listener? <;> simp [hk]
    rw [List.filterMap_append, hs, ← h.listeners]
    exact hl
  · intro l
    rw [heard_told hd, h.heard, calls_concat, count_audience, h.listeners]
  · intro name hn
    change ((next.told _ _).val.heardBy name).getLast? = some next.catalogue
    rw [heardBy_told]
    cases hc : (audience p.registry deed heeded).count (.named name) with
    | succ n => rw [List.replicate_succ', ← List.append_assoc, List.getLast?_concat]
    | zero =>
        obtain ⟨hr, hsame⟩ := (ha _ hn).resolve_left (List.count_eq_zero.1 hc)
        rw [List.replicate_zero, List.append_nil, heardBy, hd, hsame]
        exact h.latest name hr
  · intro hn
    change (if Listener.index ∈ _ then Index.build next.catalogue else next.index) = .build next.catalogue
    split
    · rfl
    · next hc =>
        obtain ⟨hr, hsame⟩ := (ha _ hn).resolve_left hc
        rw [hi, hsame]
        exact h.index hr

theorem inStep_past (deeds : List Deed) : InStep (past deeds) := by
  apply past_invariant (P := InStep)
  · exact ⟨rfl, fun l => by cases l <;> rfl, fun _ hn => absurd hn List.not_mem_nil,
      fun hn => absurd hn List.not_mem_nil⟩
  · intro p deed heeded after ht h
    exact inStep_turn ht h

theorem mem_listeners_of_subscribe {deeds : List Deed} {l : Listener}
    (h : .subscribe l ∈ deeds) : l ∈ (past deeds).registry.listeners := by
  rw [← deeds_past deeds, List.mem_map] at h
  obtain ⟨e, he, hl⟩ := h
  rw [(inStep_past deeds).listeners, List.mem_filterMap]
  exact ⟨e, he, hl ▸ rfl⟩

theorem register_eq_ok_iff (r : Registry) (b : Backend) :
    (r.register b).val.1 = .ok () ↔ b.id ∉ r.ids ∧ (b.tools.map Tool.name).Nodup := by
  rw [← conflict?_eq_none_iff]
  cases hc : r.conflict? b with
  | none => simp [register_of_free hc]
  | some e => simp [register_of_conflict hc]

theorem unregister_eq_true_iff (r : Registry) (id : String) :
    (r.unregister id).val.1 = true ↔ id ∈ r.ids := by
  by_cases hi : id ∈ r.ids
  · simp [unregister_of_mem hi, hi]
  · simp [unregister_of_not_mem hi, hi]

theorem keeps_everyone_in_step (deeds : List Deed) :
    let p := past deeds
    let r := p.registry
    p.deeds.map Prod.fst = deeds ∧
    (r.ids = (standing p.deeds).map Backend.id ∧
      r.catalogue = (standing p.deeds).flatMap entriesOf ∧ (r.catalogue.map offer).Nodup) ∧
    (r.listeners = p.deeds.filterMap (·.1.listener?) ∧ (∀ l, p.heard l = calls l p.deeds) ∧
      (∀ name, .named name ∈ r.listeners → (r.heardBy name).getLast? = some r.catalogue) ∧
      (.index ∈ r.listeners → r.index = .build r.catalogue)) ∧
    (∀ b, ((r.register b).val.1 = .ok () ↔ b.id ∉ r.ids ∧ (b.tools.map Tool.name).Nodup) ∧
      ∀ e, (r.register b).val.1 = .error e → r.register b = pure (.error e, r)) ∧
    ∀ id, ((r.unregister id).val.1 = true ↔ id ∈ r.ids) ∧
      (id ∉ r.ids → r.unregister id = pure (false, r)) := by
  intro p r
  have hs := sound_past deeds
  have hr := stands_past deeds
  have hp := inStep_past deeds
  refine ⟨deeds_past deeds, ⟨hr.ids_eq hs, hr.catalogue_eq, hs.offers_nodup⟩,
    ⟨hp.listeners, hp.heard, hp.latest, hp.index⟩, fun b => ⟨r.register_eq_ok_iff b, ?_⟩,
    fun id => ⟨r.unregister_eq_true_iff id, unregister_of_not_mem⟩⟩
  intro e he
  cases hc : r.conflict? b with
  | none => simp [register_of_free hc] at he
  | some f =>
      rw [register_of_conflict hc] at he ⊢
      rw [Except.error.inj he]

end Registry

end Switchboard
