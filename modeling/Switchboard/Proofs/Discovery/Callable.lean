import Switchboard.Catalogue.Builtin
import Switchboard.Proofs.Discovery.Ranking
import Switchboard.Proofs.Dispatch.Passage
import Switchboard.Proofs.Registry.Publication

namespace Switchboard

open Discovery (Entry Hit Index Inquiry)

theorem Backend.tool?_of_mem {b : Backend} {t : Tool} (hd : (b.tools.map Tool.name).Nodup)
    (ht : t ∈ b.tools) : b.tool? t.name = some t := by
  unfold Backend.tool?
  cases hf : b.tools.find? (fun s => s.name = t.name) with
  | none => exact absurd (List.find?_eq_none.1 hf t ht) (by simp)
  | some s =>
      have hn : s.name = t.name := by simpa using List.find?_some hf
      rw [List.inj_on_of_nodup_map hd (List.mem_of_find?_eq_some hf) ht hn]

structure Registry.Offers (r : Registry) (e : Entry) (b : Backend) (t : Tool) : Prop where
  backend : r.backends.get? e.backend = some b
  tool : b.tool? e.tool = some t
  backendName : e.backendName = b.name
  description : e.description = t.description

theorem Registry.Sound.offers {r : Registry} (h : r.Sound) {e : Entry} (he : e ∈ r.catalogue) :
    ∃ b t, r.Offers e b t := by
  obtain ⟨b, hb, he⟩ := List.mem_flatMap.1 he
  obtain ⟨⟨id, b⟩, hm, rfl⟩ := List.mem_map.1 hb
  obtain ⟨t, ht, rfl⟩ := List.mem_map.1 he
  have hid : b.id = id := h.named _ hm
  have hb : r.backends.get? b.id = some b := (Roster.get?_eq_some_iff _ _ _).2 (hid ▸ hm)
  exact ⟨b, t, hb, Backend.tool?_of_mem (h.distinct _ hm) ht, rfl, rfl⟩

namespace Registry

theorem entries_discover_subperm {deeds : List Deed} (hs : .subscribe .index ∈ deeds)
    (limits : SearchLimits) (q : Inquiry) :
    (((past deeds).registry.index.discover limits q).map Hit.entry).Subperm
      (past deeds).registry.catalogue := by
  have hi := (inStep_past deeds).index (mem_listeners_of_subscribe hs)
  have hp := Index.discover_subperm (past deeds).registry.index limits q
  rw [hi, Index.documents_build] at hp
  exact hi ▸ hp

theorem hits_are_callable (deeds : List Deed) (hs : .subscribe .index ∈ deeds) (breaker : Breaker)
    (sightings : Sightings) (ledger : Ledger) (limits : SearchLimits) (q : Inquiry) :
    let x : Exchange := ⟨(past deeds).registry, breaker, sightings, ledger⟩
    let hits := x.registry.index.discover limits q
    (∀ h ∈ hits, (∃ b t, x.registry.Offers h.entry b t) ∧
      ∀ m payload tick refusal,
        (x.dispatch m ⟨h.entry.backend, h.entry.tool, payload, q.scopes, tick⟩).val.1 =
          .error (.refused refusal) → refusal.kind ≠ .notFound ∧ refusal.kind ≠ .forbidden) ∧
    (hits.map (fun h => offer h.entry)).Nodup ∧
    hits.length ≤ min ((q.top.map (·.1)).getD limits.usual) limits.most := by
  intro x hits
  have hsound := sound_past deeds
  have hsub := entries_discover_subperm hs limits q
  refine ⟨?_, ?_, x.registry.index.length_discover_le limits q⟩
  · intro h hh
    obtain ⟨b, t, ho⟩ := hsound.offers (hsub.subset (List.mem_map_of_mem hh))
    refine ⟨⟨b, t, ho⟩, ?_⟩
    intro m payload tick refusal hd
    have he : x.Entitled ⟨h.entry.backend, h.entry.tool, payload, q.scopes, tick⟩ t :=
      ⟨⟨b, ho.backend, ho.tool⟩, x.registry.index.allows_of_mem_discover limits q hh⟩
    rcases Exchange.kind_of_entitled he hd with hk | hk | hk <;> simp [hk]
  · have hm : hits.map (fun h => offer h.entry) = (hits.map Hit.entry).map offer := by
      rw [List.map_map]
      rfl
    obtain ⟨es, hp, hsl⟩ := hsub
    have hes : (es.map offer).Nodup := hsound.offers_nodup.sublist (hsl.map offer)
    rw [hm]
    exact (hp.map offer).nodup_iff.1 hes

def restocked : List Deed :=
  [.register Builtin.echoBackend, .subscribe .index, .register Builtin.faultBackend,
    .unregister Builtin.echoId, .register Builtin.echoBackend]

theorem restocked_hits_are_callable :
    .subscribe .index ∈ restocked ∧ (past restocked).registry.ids = [Builtin.faultId, Builtin.echoId] ∧
      let x : Exchange := ⟨(past restocked).registry, .start .standard, .empty, .start .traces none⟩
      let hits := x.registry.index.discover .standard
        ⟨"echo a message", some ⟨2, by decide⟩, some [Builtin.echoId]⟩
      (∀ h ∈ hits, (∃ b t, x.registry.Offers h.entry b t) ∧
        ∀ m payload tick refusal,
          (x.dispatch m ⟨h.entry.backend, h.entry.tool, payload, some [Builtin.echoId], tick⟩).val.1 =
            .error (.refused refusal) → refusal.kind ≠ .notFound ∧ refusal.kind ≠ .forbidden) ∧
      (hits.map (fun h => offer h.entry)).Nodup ∧ hits.length ≤ 2 := by
  have hs : .subscribe .index ∈ restocked := by simp [restocked]
  exact ⟨hs, rfl, hits_are_callable restocked hs _ _ _ _ _⟩

end Registry

end Switchboard
