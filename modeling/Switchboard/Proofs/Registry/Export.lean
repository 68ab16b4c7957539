import Mathlib.Data.List.Nodup
import Switchboard.Catalogue.Builtin
import Switchboard.Proofs.Registry.Run

namespace Switchboard

namespace Tool

def shown (id : String) : String :=
  String.ofList (id.toList.map fun c =>
    if Text.isAlphanumeric c || c = '_' || c = '-' then c else '_')

/-- Two names with the bar between backend and tool at different places: the later bar begins in
the middle of the earlier one, or somewhere behind it. -/
inductive Overlaps (o p : String × String) : Prop
  | shifted : shown p.1 = shown o.1 ++ "_" → o.2 = "_" ++ p.2 → Overlaps o p
  | apart (between : String) : shown p.1 = shown o.1 ++ "__" ++ between →
      o.2 = between ++ "__" ++ p.2 → Overlaps o p

inductive Clashes (o p : String × String) : Prop
  | alike : shown o.1 = shown p.1 → o.2 = p.2 → Clashes o p
  | earlier : Overlaps o p → Clashes o p
  | later : Overlaps p o → Clashes o p

variable {o p : String × String}

theorem exportedName_eq (id tool : String) : exportedName id tool = shown id ++ "__" ++ tool := rfl

theorem toList_exportedName (id tool : String) :
    (exportedName id tool).toList = (shown id).toList ++ '_' :: '_' :: tool.toList := by
  rw [exportedName_eq, String.toList_append, String.toList_append, List.append_assoc]
  rfl

theorem bar_placed {w t u : List Char} (h : '_' :: '_' :: t = w ++ '_' :: '_' :: u) :
    (w = [] ∧ t = u) ∨ (w = ['_'] ∧ t = '_' :: u) ∨
      ∃ v, w = '_' :: '_' :: v ∧ t = v ++ '_' :: '_' :: u := by
  match w, h with
  | [], h => exact .inl ⟨rfl, by simpa using h⟩
  | [c], h =>
      obtain ⟨rfl, ht⟩ : '_' = c ∧ t = '_' :: u := by simpa using h
      exact .inr (.inl ⟨rfl, ht⟩)
  | c :: d :: v, h =>
      obtain ⟨rfl, rfl, ht⟩ : '_' = c ∧ '_' = d ∧ t = v ++ '_' :: '_' :: u := by simpa using h
      exact .inr (.inr ⟨v, rfl, ht⟩)

theorem clashes_of_longer {w : List Char} (hid : (shown p.1).toList = (shown o.1).toList ++ w)
    (h : '_' :: '_' :: o.2.toList = w ++ '_' :: '_' :: p.2.toList) : Clashes o p := by
  rcases bar_placed h with ⟨rfl, ht⟩ | ⟨rfl, ht⟩ | ⟨v, rfl, ht⟩
  · refine .alike (String.toList_inj.1 ?_) (String.toList_inj.1 ht)
    rw [hid, List.append_nil]
  · refine .earlier (.shifted (String.toList_inj.1 ?_) (String.toList_inj.1 ?_))
    · rw [hid, String.toList_append]
      rfl
    · rw [ht, String.toList_append]
      rfl
  · refine .earlier (.apart (String.ofList v) (String.toList_inj.1 ?_) (String.toList_inj.1 ?_))
    · simp [hid]
    · simp [ht]

theorem Clashes.symm (h : Clashes o p) : Clashes p o := by
  cases h with
  | alike hid htool => exact .alike hid.symm htool.symm
  | earlier h => exact .later h
  | later h => exact .earlier h

theorem Overlaps.exportedName_eq (h : Overlaps o p) :
    exportedName o.1 o.2 = exportedName p.1 p.2 := by
  apply String.toList_inj.1
  rw [toList_exportedName, toList_exportedName]
  cases h with
  | shifted hid htool => simp [hid, htool]
  | apart between hid htool => simp [hid, htool]

theorem exportedName_eq_iff :
    exportedName o.1 o.2 = exportedName p.1 p.2 ↔ Clashes o p := by
  constructor
  · intro h
    have hchars := String.toList_inj.2 h
    rw [toList_exportedName, toList_exportedName] at hchars
    rcases List.append_eq_append_iff.1 hchars with ⟨w, hid, htool⟩ | ⟨w, hid, htool⟩
    · exact clashes_of_longer hid htool
    · exact (clashes_of_longer hid htool).symm
  · intro h
    cases h with
    | alike hid htool => rw [Tool.exportedName_eq, Tool.exportedName_eq, hid, htool]
    | earlier h => exact h.exportedName_eq
    | later h => exact h.exportedName_eq.symm

/-- No bar lies within an id, or begins at its end. -/
def Unbarred (id : String) : Prop := ¬ ['_', '_'] <:+: (shown id).toList ++ ['_']

instance (id : String) : Decidable (Unbarred id) :=
  inferInstanceAs (Decidable (¬ ['_', '_'] <:+: (shown id).toList ++ ['_']))

theorem Unbarred.not_overlaps (h : Unbarred p.1) : ¬ Overlaps o p := by
  intro hover
  apply h
  cases hover with
  | shifted hid _ => exact ⟨(shown o.1).toList, [], by simp [hid]⟩
  | apart between hid _ => exact ⟨(shown o.1).toList, between.toList ++ ['_'], by simp [hid]⟩

theorem Clashes.alike_of_unbarred (h : Clashes o p) (ho : Unbarred o.1) (hp : Unbarred p.1) :
    shown o.1 = shown p.1 ∧ o.2 = p.2 := by
  cases h with
  | alike hid htool => exact ⟨hid, htool⟩
  | earlier h => exact absurd h hp.not_overlaps
  | later h => exact absurd h ho.not_overlaps

end Tool

namespace Registry

variable {r : Registry}

theorem exported_offers (r : Registry) :
    r.exported.map (fun t => (t.backend, t.tool.name)) = r.catalogue.map offer := by
  rw [exported, catalogue, List.map_flatMap, List.map_flatMap]
  refine List.flatMap_congr fun b _ => ?_
  rw [entriesOf, List.map_map, List.map_map]
  rfl

theorem exported_names (r : Registry) :
    r.exported.map ExportedTool.name =
      (r.catalogue.map offer).map fun o => Tool.exportedName o.1 o.2 := by
  rw [← exported_offers, List.map_map, exported, List.map_flatMap, List.map_flatMap]
  refine List.flatMap_congr fun b _ => ?_
  rw [List.map_map, List.map_map]
  rfl

theorem Sound.names_nodup_iff (hr : r.Sound) : (r.exported.map ExportedTool.name).Nodup ↔
    ∀ o ∈ r.catalogue.map offer, ∀ p ∈ r.catalogue.map offer, o ≠ p → ¬ Tool.Clashes o p := by
  rw [exported_names, List.nodup_map_iff_inj_on hr.offers_nodup]
  refine forall₂_congr fun o _ => forall₂_congr fun p _ => ?_
  rw [Tool.exportedName_eq_iff, not_imp_not]

theorem name_of_mem_exported {t : ExportedTool} (ht : t ∈ r.exported) :
    t.name = Tool.exportedName t.backend t.tool.name := by
  obtain ⟨b, -, hb⟩ := List.mem_flatMap.1 ht
  obtain ⟨tool, -, rfl⟩ := List.mem_map.1 hb
  rfl

theorem Sound.mem_ids_of_offer (hr : r.Sound) {o : String × String}
    (ho : o ∈ r.catalogue.map offer) : o.1 ∈ r.ids := by
  obtain ⟨e, he, rfl⟩ := List.mem_map.1 ho
  obtain ⟨b, hb, he⟩ := List.mem_flatMap.1 he
  obtain ⟨tool, -, rfl⟩ := List.mem_map.1 he
  exact hr.ids_eq ▸ List.mem_map_of_mem hb

theorem Sound.names_nodup (hr : r.Sound) (hshown : (r.ids.map Tool.shown).Nodup)
    (hbars : ∀ id ∈ r.ids, Tool.Unbarred id) : (r.exported.map ExportedTool.name).Nodup := by
  refine hr.names_nodup_iff.2 fun o ho p hp hne hclash => hne ?_
  have hid := hr.mem_ids_of_offer ho
  have hid' := hr.mem_ids_of_offer hp
  obtain ⟨hsame, htool⟩ := hclash.alike_of_unbarred (hbars _ hid) (hbars _ hid')
  exact Prod.ext (List.inj_on_of_nodup_map hshown hid hid' hsame) htool

theorem exported_names_clash_exactly (deeds : List Deed) :
    let r := (past deeds).registry
    let offers := r.catalogue.map offer
    (r.exported.map (fun t => (t.backend, t.tool.name)) = offers ∧ offers.Nodup) ∧
    (∀ t ∈ r.exported, ∀ u ∈ r.exported,
      t.name = u.name ↔ Tool.Clashes (t.backend, t.tool.name) (u.backend, u.tool.name)) ∧
    ((r.exported.map ExportedTool.name).Nodup ↔
      ∀ o ∈ offers, ∀ p ∈ offers, o ≠ p → ¬ Tool.Clashes o p) ∧
    ((r.ids.map Tool.shown).Nodup → (∀ id ∈ r.ids, Tool.Unbarred id) →
      ∀ t ∈ r.exported, ∀ u ∈ r.exported, t.name = u.name → t = u) := by
  intro r offers
  have hr := sound_past deeds
  refine ⟨⟨r.exported_offers, hr.offers_nodup⟩, ?_, hr.names_nodup_iff, ?_⟩
  · intro t ht u hu
    rw [name_of_mem_exported ht, name_of_mem_exported hu]
    exact Tool.exportedName_eq_iff (o := (t.backend, t.tool.name)) (p := (u.backend, u.tool.name))
  · intro hshown hbars t ht u hu hname
    exact List.inj_on_of_nodup_map (hr.names_nodup hshown hbars) ht hu hname

def builtins : List Deed := [.register Builtin.echoBackend, .register Builtin.faultBackend]

theorem builtin_names_told_apart :
    (past builtins).registry.exported.map ExportedTool.name =
      ["builtin_echo__echo", "builtin_echo__word_count", "builtin_fault__fault_call",
        "builtin_fault__fault_set_health"] ∧
    ∀ t ∈ (past builtins).registry.exported, ∀ u ∈ (past builtins).registry.exported,
      t.name = u.name → t = u := by
  refine ⟨by decide +kernel, ?_⟩
  have hshown : ((past builtins).registry.ids.map Tool.shown).Nodup := by decide +kernel
  have hbars : ∀ id ∈ (past builtins).registry.ids, Tool.Unbarred id := by decide +kernel
  exact (exported_names_clash_exactly builtins).2.2.2 hshown hbars

def counting (id tool : String) : Backend :=
  ⟨id, "", [{ Builtin.wordCount with name := tool }], .absent⟩

theorem exported_names_collide :
    let colon := (past [.register (counting "a:b" "t"), .register (counting "a_b" "t")]).registry
    let bar := (past [.register (counting "a" "b__t"), .register (counting "a__b" "t")]).registry
    colon.catalogue.map offer = [("a:b", "t"), ("a_b", "t")] ∧
    colon.exported.map ExportedTool.name = ["a_b__t", "a_b__t"] ∧
    bar.catalogue.map offer = [("a", "b__t"), ("a__b", "t")] ∧
    bar.exported.map ExportedTool.name = ["a__b__t", "a__b__t"] := by
  decide +kernel

end Registry

end Switchboard
