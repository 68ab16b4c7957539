import Mathlib.Data.List.Induction
import Mathlib.Data.List.Nodup
import Switchboard.Catalogue.Registry

namespace Switchboard

open Discovery (Entry Index)

namespace Listener

def name? : Listener → Option String
  | .named name => some name
  | .index => none

end Listener

def Backend.unchecked (b : Backend) : Backend := { b with check := .absent }

theorem Backend.tools_eq {b c : Backend} (h : b.unchecked = c.unchecked) : b.tools = c.tools := by
  have ht := congrArg Backend.tools h
  exact ht

namespace Registry

/-- `report` is what a call may do to a backend: its health check reports otherwise from then on. -/
inductive Deed where
  | register (b : Backend)
  | unregister (id : String)
  | subscribe (l : Listener)
  | report (id : String) (healthy : Bool)

namespace Deed

def changes : Deed → Bool
  | .register _ => true
  | .unregister _ => true
  | _ => false

def listener? : Deed → Option Listener
  | .subscribe l => some l
  | _ => none

def registered? : Deed → Option Backend
  | .register b => some b
  | _ => none

def unregisters (id : String) : Deed → Bool
  | .unregister k => k = id
  | _ => false

end Deed

def act (r : Registry) : Deed → Logged (Bool × Registry)
  | .register b => do
      let (answer, r) ← r.register b
      pure (answer.isOk, r)
  | .unregister id => r.unregister id
  | .subscribe l => do pure (true, ← r.subscribe l)
  | .report id healthy => pure (true, r.setHealth id (some healthy))

structure Past where
  deeds : List (Deed × Bool)
  registry : Registry
  notices : List Notice

def Past.next (p : Past) (deed : Deed) : Past :=
  let r := p.registry.act deed
  ⟨p.deeds ++ [(deed, r.val.1)], r.val.2, p.notices ++ r.notices⟩

def past (deeds : List Deed) : Past := deeds.foldl Past.next ⟨[], .empty, []⟩

theorem past_concat (deeds : List Deed) (deed : Deed) :
    past (deeds ++ [deed]) = (past deeds).next deed := by
  simp [past]

theorem deeds_past (deeds : List Deed) : (past deeds).deeds.map Prod.fst = deeds := by
  induction deeds using List.reverseRecOn with
  | nil => rfl
  | append_singleton deeds deed ih =>
      rw [past_concat, Past.next, List.map_append, ih]
      rfl

def heardBy (r : Registry) (name : String) : List (List Entry) :=
  (r.deliveries.filter (fun d => d.listener = name)).map Delivery.entries

def told (r : Registry) (es : List Entry) (ls : List Listener) : Logged Registry :=
  ⟨{ r with
      deliveries := r.deliveries ++ (ls.filterMap Listener.name?).map (⟨·, es⟩)
      index := if .index ∈ ls then .build es else r.index },
    List.replicate (ls.count .index) (Index.build es).notice⟩

theorem deliver_eq (es : List Entry) (r : Registry) (l : Listener) :
    deliver es r l = r.told es [l] := by
  cases l with
  | named name => simp [deliver, told, Listener.name?, pure]
  | index => simp [deliver, reindex, told, Listener.name?]

theorem told_told (r : Registry) (es : List Entry) (ls ms : List Listener) :
    (r.told es ls).val.told es ms =
      ⟨(r.told es (ls ++ ms)).val, List.replicate (ms.count .index) (Index.build es).notice⟩ := by
  have hi : (if Listener.index ∈ ms then Index.build es
      else if Listener.index ∈ ls then Index.build es else r.index) =
      if Listener.index ∈ ls ++ ms then Index.build es else r.index := by
    by_cases hl : Listener.index ∈ ls <;> simp [hl]
  simp only [told, List.filterMap_append, List.map_append, List.append_assoc, hi]

theorem foldlM_deliver (es : List Entry) (ls : List Listener) (r : Registry) :
    ls.foldlM (deliver es) r = r.told es ls := by
  induction ls generalizing r with
  | nil => simp [told, pure]
  | cons l ls ih =>
      have hn : List.replicate ([l].count .index) (Index.build es).notice ++
          List.replicate (ls.count .index) (Index.build es).notice =
          List.replicate ((l :: ls).count .index) (Index.build es).notice := by
        rw [List.replicate_append_replicate, ← List.count_append, List.singleton_append]
      calc (l :: ls).foldlM (deliver es) r
          = r.told es [l] >>= fun r => r.told es ls := by
            rw [List.foldlM_cons, deliver_eq]
            exact congrArg _ (funext ih)
        _ = r.told es (l :: ls) := by
            change Logged.mk ((r.told es [l]).val.told es ls).val
              (_ ++ ((r.told es [l]).val.told es ls).notices) = _
            rw [told_told]
            exact congrArg _ hn

theorem announce_eq (r : Registry) : r.announce = r.told r.catalogue r.listeners :=
  foldlM_deliver r.catalogue r.listeners r

theorem heardBy_told (r : Registry) (es : List Entry) (ls : List Listener) (name : String) :
    (r.told es ls).val.heardBy name =
      r.heardBy name ++ List.replicate (ls.count (.named name)) es := by
  rw [heardBy, heardBy, told, List.filter_append, List.map_append]
  apply congrArg (_ ++ ·)
  induction ls with
  | nil => rfl
  | cons l ls ih =>
      cases l with
      | index => simpa [List.filterMap_cons, Listener.name?] using ih
      | named k =>
          by_cases hk : k = name
          · simpa [List.filterMap_cons, Listener.name?, hk, List.replicate_succ] using ih
          · simpa [List.filterMap_cons, Listener.name?, hk] using ih

inductive Turn (r : Registry) : Deed → Bool → Logged Registry → Prop
  | registered {b} : b.id ∉ r.ids → (b.tools.map Tool.name).Nodup →
      Turn r (.register b) true (announce { r with backends := r.backends.put b.id b })
  | unregistered {id} : id ∈ r.ids →
      Turn r (.unregister id) true (announce { r with backends := r.backends.erase id })
  | refused {b} : ¬ (b.id ∉ r.ids ∧ (b.tools.map Tool.name).Nodup) →
      Turn r (.register b) false (pure r)
  | unknown {id} : id ∉ r.ids → Turn r (.unregister id) false (pure r)
  | subscribed {l} : Turn r (.subscribe l) true
      (told { r with listeners := r.listeners ++ [l] } r.catalogue [l])
  | reported {id healthy} : Turn r (.report id healthy) true (pure (r.setHealth id (some healthy)))

theorem conflict?_eq_none_iff (r : Registry) (b : Backend) :
    r.conflict? b = none ↔ b.id ∉ r.ids ∧ (b.tools.map Tool.name).Nodup := by
  have hc := Roster.contains_iff r.backends b.id
  rw [conflict?, ids, ← hc]
  cases r.backends.contains b.id with
  | true => simp
  | false => by_cases hd : (b.tools.map Tool.name).Nodup <;> simp [hd]

theorem register_of_conflict {r : Registry} {b : Backend} {e : Fault} (h : r.conflict? b = some e) :
    r.register b = pure (.error e, r) := by
  simp only [register, h]

theorem register_of_free {r : Registry} {b : Backend} (h : r.conflict? b = none) :
    let told := announce { r with backends := r.backends.put b.id b }
    r.register b = ⟨(.ok (), told.val), told.notices⟩ := by
  simp only [register, h]
  exact congrArg (Logged.mk _) (List.append_nil _)

theorem unregister_of_mem {r : Registry} {id : String} (h : id ∈ r.ids) :
    let told := announce { r with backends := r.backends.erase id }
    r.unregister id = ⟨(true, told.val), told.notices⟩ := by
  have hc : r.backends.contains id = true := (Roster.contains_iff _ _).2 h
  simp only [unregister, hc, if_true]
  exact congrArg (Logged.mk _) (List.append_nil _)

theorem unregister_of_not_mem {r : Registry} {id : String} (h : id ∉ r.ids) :
    r.unregister id = pure (false, r) := by
  have hc : ¬ r.backends.contains id = true := fun hc => h ((Roster.contains_iff _ _).1 hc)
  rw [unregister, if_neg hc]

theorem act_turn (r : Registry) (deed : Deed) :
    Turn r deed (r.act deed).val.1 ⟨(r.act deed).val.2, (r.act deed).notices⟩ := by
  cases deed with
  | register b =>
      cases hc : r.conflict? b with
      | some e =>
          rw [act, register_of_conflict hc]
          exact .refused fun hn => by simp [(r.conflict?_eq_none_iff b).2 hn] at hc
      | none =>
          obtain ⟨hn, hd⟩ := (r.conflict?_eq_none_iff b).1 hc
          rw [act, register_of_free hc]
          simp only [Logged.notices_bind, Logged.notices_pure, List.append_nil]
          exact .registered hn hd
  | unregister id =>
      by_cases hi : id ∈ r.ids
      · rw [act, unregister_of_mem hi]
        exact .unregistered hi
      · rw [act, unregister_of_not_mem hi]
        exact .unknown hi
  | subscribe l =>
      rw [act, subscribe, deliver_eq]
      simp only [Logged.notices_bind, Logged.notices_pure, List.append_nil]
      exact .subscribed
  | report id healthy => exact .reported

theorem past_invariant {P : Past → Prop} (start : P ⟨[], .empty, []⟩)
    (step : ∀ p deed heeded after, Turn p.registry deed heeded after → P p →
      P ⟨p.deeds ++ [(deed, heeded)], after.val, p.notices ++ after.notices⟩)
    (deeds : List Deed) : P (past deeds) := by
  induction deeds using List.reverseRecOn with
  | nil => exact start
  | append_singleton deeds deed ih =>
      rw [past_concat]
      exact step _ deed _ _ (act_turn _ deed) ih

def offer (e : Entry) : String × String := (e.backend, e.tool)

structure Sound (r : Registry) : Prop where
  named : ∀ e ∈ r.backends.entries, e.2.id = e.1
  distinct : ∀ e ∈ r.backends.entries, (e.2.tools.map Tool.name).Nodup

variable {r : Registry} {id : String}

theorem Sound.ids_eq (h : r.Sound) : r.ids = r.backends.values.map Backend.id := by
  rw [ids, Roster.ids, Roster.values, List.map_map]
  apply List.map_congr_left
  intro e he
  exact (h.named e he).symm

theorem Sound.offers_nodup (h : r.Sound) : (r.catalogue.map offer).Nodup := by
  have hids : (r.backends.values.map Backend.id).Nodup := h.ids_eq ▸ r.backends.nodup
  rw [catalogue, List.map_flatMap, List.nodup_flatMap]
  constructor
  · intro b hb
    obtain ⟨e, he, rfl⟩ := List.mem_map.1 hb
    have hd := h.distinct e he
    have hm : (entriesOf e.2).map offer = (e.2.tools.map Tool.name).map (e.2.id, ·) := by
      rw [entriesOf, List.map_map, List.map_map]
      rfl
    rw [hm]
    exact hd.map fun _ _ hp => (Prod.mk.injEq _ _ _ _ ▸ hp).2
  · refine (List.pairwise_map.1 hids).imp ?_
    intro b c hbc o hb hc
    simp only [entriesOf, List.map_map, List.mem_map, Function.comp_apply, offer] at hb hc
    obtain ⟨_, _, rfl⟩ := hb
    obtain ⟨_, _, hc⟩ := hc
    exact hbc (Prod.mk.inj hc).1.symm

theorem mem_setHealth {health : Option Bool} {e : String × Backend}
    (he : e ∈ (r.setHealth id health).backends.entries) :
    ∃ b, (e.1, b) ∈ r.backends.entries ∧ e.2.unchecked = b.unchecked := by
  unfold Registry.setHealth at he
  cases health with
  | none => exact ⟨e.2, he, rfl⟩
  | some healthy =>
      cases hg : r.backends.get? id with
      | none =>
          simp only [hg] at he
          exact ⟨e.2, he, rfl⟩
      | some b =>
          simp only [hg] at he
          rcases Roster.mem_entries_put he with rfl | he
          · exact ⟨b, (Roster.get?_eq_some_iff _ _ _).1 hg, rfl⟩
          · exact ⟨e.2, he, rfl⟩

theorem entry_of_turn {deed : Deed} {heeded : Bool} {after : Logged Registry}
    (ht : Turn r deed heeded after) {e : String × Backend}
    (he : e ∈ after.val.backends.entries) :
    (∃ b, deed = .register b ∧ e = (b.id, b) ∧ (b.tools.map Tool.name).Nodup) ∨
      ∃ b, (e.1, b) ∈ r.backends.entries ∧ e.2.unchecked = b.unchecked := by
  cases ht with
  | registered hn hd =>
      rw [announce_eq] at he
      rcases Roster.mem_entries_put he with rfl | he
      · exact .inl ⟨_, rfl, rfl, hd⟩
      · exact .inr ⟨e.2, he, rfl⟩
  | unregistered hi =>
      rw [announce_eq] at he
      exact .inr ⟨e.2, Roster.mem_entries_erase he, rfl⟩
  | refused _ => exact .inr ⟨e.2, he, rfl⟩
  | unknown _ => exact .inr ⟨e.2, he, rfl⟩
  | subscribed => exact .inr ⟨e.2, he, rfl⟩
  | reported => exact .inr (mem_setHealth he)

theorem sound_turn {deed : Deed} {heeded : Bool} {after : Logged Registry}
    (ht : Turn r deed heeded after) (h : r.Sound) : after.val.Sound where
  named := by
    intro e he
    rcases entry_of_turn ht he with ⟨b, -, rfl, -⟩ | ⟨b, hb, hu⟩
    · rfl
    · exact (congrArg Backend.id hu).trans (h.named _ hb)
  distinct := by
    intro e he
    rcases entry_of_turn ht he with ⟨b, -, rfl, hd⟩ | ⟨b, hb, hu⟩
    · exact hd
    · exact Backend.tools_eq hu ▸ h.distinct _ hb

theorem sound_past (deeds : List Deed) : (past deeds).registry.Sound := by
  refine past_invariant (P := fun p => p.registry.Sound) ?_ ?_ deeds
  · exact ⟨fun e he => absurd he List.not_mem_nil, fun e he => absurd he List.not_mem_nil⟩
  · intro p deed heeded after ht h
    exact sound_turn ht h

end Registry

end Switchboard
