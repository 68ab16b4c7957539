namespace Switchboard

structure Roster (α : Type) where
  entries : List (String × α)
  nodup : (entries.map Prod.fst).Nodup

namespace Roster

variable {α : Type}

def empty : Roster α := ⟨[], by simp⟩

def ids (r : Roster α) : List String := r.entries.map Prod.fst

def values (r : Roster α) : List α := r.entries.map Prod.snd

def get? (r : Roster α) (id : String) : Option α := r.entries.lookup id

def contains (r : Roster α) (id : String) : Bool := r.ids.contains id

theorem map_fst_replace (l : List (String × α)) (id : String) (a : α) :
    (l.map (fun e => if e.1 = id then (id, a) else e)).map Prod.fst = l.map Prod.fst := by
  induction l with
  | nil => rfl
  | cons e l ih =>
      simp only [List.map_cons, ih]
      split
      · next h => simp [h]
      · rfl

def put (r : Roster α) (id : String) (a : α) : Roster α :=
  if h : id ∈ r.ids then
    ⟨r.entries.map (fun e => if e.1 = id then (id, a) else e), by
      rw [map_fst_replace]; exact r.nodup⟩
  else
    ⟨r.entries ++ [(id, a)], by
      rw [List.map_append, List.nodup_append]
      refine ⟨r.nodup, by simp, ?_⟩
      intro x hx y hy
      simp only [List.map_cons, List.map_nil, List.mem_singleton] at hy
      subst hy
      intro hxy
      exact h (hxy ▸ hx)⟩

def erase (r : Roster α) (id : String) : Roster α :=
  ⟨r.entries.filter (fun e => e.1 ≠ id), r.nodup.sublist (List.filter_sublist.map _)⟩

theorem ext {r s : Roster α} (h : r.entries = s.entries) : r = s := by
  cases r; cases s; simp_all

@[simp] theorem get?_empty (id : String) : (empty : Roster α).get? id = none := rfl

theorem lookup_eq_none_iff (l : List (String × α)) (id : String) :
    l.lookup id = none ↔ id ∉ l.map Prod.fst := by
  induction l with
  | nil => simp
  | cons e l ih =>
      obtain ⟨k, v⟩ := e
      by_cases h : id = k
      · subst h; simp
      · have hb : (id == k) = false := by simpa using h
        simp [List.lookup_cons, hb, h, ih]

theorem get?_eq_none_iff (r : Roster α) (id : String) : r.get? id = none ↔ id ∉ r.ids :=
  lookup_eq_none_iff r.entries id

theorem contains_iff (r : Roster α) (id : String) : r.contains id = true ↔ id ∈ r.ids := by
  simp [contains]

theorem mem_of_lookup {l : List (String × α)} {id : String} {a : α} (h : l.lookup id = some a) :
    (id, a) ∈ l := by
  induction l with
  | nil => simp at h
  | cons e l ih =>
      obtain ⟨k, v⟩ := e
      by_cases hk : id = k
      · subst hk; simp at h; simp [h]
      · have hb : (id == k) = false := by simpa using hk
        simp only [List.lookup_cons, hb] at h
        exact List.mem_cons_of_mem _ (ih h)

theorem lookup_of_mem {l : List (String × α)} {id : String} {a : α}
    (hn : (l.map Prod.fst).Nodup) (h : (id, a) ∈ l) : l.lookup id = some a := by
  induction l with
  | nil => simp at h
  | cons e l ih =>
      obtain ⟨k, v⟩ := e
      simp only [List.map_cons, List.nodup_cons] at hn
      rcases List.mem_cons.1 h with h | h
      · cases h; simp
      · have hk : id ≠ k := fun hk => hn.1 (hk ▸ List.mem_map_of_mem (f := Prod.fst) h)
        have hb : (id == k) = false := by simpa using hk
        simp only [List.lookup_cons, hb]
        exact ih hn.2 h

theorem get?_eq_some_iff (r : Roster α) (id : String) (a : α) :
    r.get? id = some a ↔ (id, a) ∈ r.entries :=
  ⟨mem_of_lookup, lookup_of_mem r.nodup⟩

theorem mem_ids_of_get? {r : Roster α} {id : String} {a : α} (h : r.get? id = some a) :
    id ∈ r.ids :=
  List.mem_map_of_mem (f := Prod.fst) ((get?_eq_some_iff r id a).1 h)

theorem lookup_map_replace (l : List (String × α)) (id k : String) (a : α) :
    (l.map (fun e => if e.1 = id then (id, a) else e)).lookup k
      = if k = id ∧ id ∈ l.map Prod.fst then some a else l.lookup k := by
  induction l with
  | nil => simp
  | cons e l ih =>
      obtain ⟨j, v⟩ := e
      simp only [List.map_cons]
      by_cases hj : j = id
      · subst hj
        by_cases hk : k = j
        · subst hk; simp
        · have hb : (k == j) = false := by simpa using hk
          simp only [if_true, List.lookup_cons, hb, ih, hk, false_and, if_false]
      · by_cases hk : k = j
        · subst hk
          simp [hj]
        · have hb : (k == j) = false := by simpa using hk
          have hm : id ∈ j :: l.map Prod.fst ↔ id ∈ l.map Prod.fst := by
            simp [Ne.symm hj]
          rw [if_neg hj, List.lookup_cons, hb, List.lookup_cons, hb, ih]
          simp only [hm]

theorem entries_put_of_mem (r : Roster α) {id : String} (a : α) (h : id ∈ r.ids) :
    (r.put id a).entries = r.entries.map (fun e => if e.1 = id then (id, a) else e) := by
  rw [put, dif_pos h]

theorem entries_put_of_not_mem (r : Roster α) {id : String} (a : α) (h : id ∉ r.ids) :
    (r.put id a).entries = r.entries ++ [(id, a)] := by
  rw [put, dif_neg h]

theorem put_of_get? {r : Roster α} {id : String} {a : α} (h : r.get? id = some a) :
    r.put id a = r := by
  apply ext
  rw [entries_put_of_mem r a (mem_ids_of_get? h)]
  refine (List.map_congr_left ?_).trans (List.map_id _)
  intro e he
  split
  · next hk =>
      have hg := (get?_eq_some_iff r id e.2).2 (hk ▸ he)
      rw [h, Option.some.injEq] at hg
      rw [hg, ← hk]
      rfl
  · rfl

theorem get?_put_self (r : Roster α) (id : String) (a : α) : (r.put id a).get? id = some a := by
  by_cases h : id ∈ r.ids
  · rw [get?, entries_put_of_mem r a h, lookup_map_replace, if_pos ⟨rfl, h⟩]
  · rw [get?_eq_some_iff, entries_put_of_not_mem r a h]
    simp

theorem get?_put_of_ne (r : Roster α) {id k : String} (a : α) (h : k ≠ id) :
    (r.put id a).get? k = r.get? k := by
  by_cases hm : id ∈ r.ids
  · rw [get?, entries_put_of_mem r a hm, lookup_map_replace, if_neg (fun hk => h hk.1)]
    rfl
  · rw [get?, entries_put_of_not_mem r a hm, List.lookup_append]
    have hb : (k == id) = false := by simpa using h
    simp [List.lookup_cons, hb, get?]

theorem get?_put (r : Roster α) (id k : String) (a : α) :
    (r.put id a).get? k = if k = id then some a else r.get? k := by
  split
  · next h => subst h; exact get?_put_self r k a
  · next h => exact get?_put_of_ne r a h

theorem get?_erase (r : Roster α) (id k : String) :
    (r.erase id).get? k = if k = id then none else r.get? k := by
  split
  · next h =>
      subst h
      rw [get?_eq_none_iff]
      simp [erase, ids]
  · next h =>
      cases hg : r.get? k with
      | none =>
          rw [get?_eq_none_iff] at hg ⊢
          intro hm
          apply hg
          simp only [ids, erase, List.mem_map, List.mem_filter] at hm ⊢
          obtain ⟨e, ⟨he, _⟩, hk⟩ := hm
          exact ⟨e, he, hk⟩
      | some a =>
          rw [get?_eq_some_iff] at hg ⊢
          simp [erase, hg, h]

theorem ids_put_of_mem (r : Roster α) {id : String} (a : α) (h : id ∈ r.ids) :
    (r.put id a).ids = r.ids := by
  rw [ids, entries_put_of_mem r a h, map_fst_replace]
  rfl

theorem ids_put_of_not_mem (r : Roster α) {id : String} (a : α) (h : id ∉ r.ids) :
    (r.put id a).ids = r.ids ++ [id] := by
  rw [ids, entries_put_of_not_mem r a h]
  simp [ids]

theorem mem_ids_put (r : Roster α) (id k : String) (a : α) :
    k ∈ (r.put id a).ids ↔ k = id ∨ k ∈ r.ids := by
  by_cases h : id ∈ r.ids
  · rw [ids_put_of_mem r a h]
    constructor
    · exact Or.inr
    · rintro (rfl | hk)
      · exact h
      · exact hk
  · rw [ids_put_of_not_mem r a h]
    simp [or_comm]

theorem mem_entries_put {r : Roster α} {id : String} {a : α} {e : String × α}
    (h : e ∈ (r.put id a).entries) : e = (id, a) ∨ e ∈ r.entries := by
  by_cases hm : id ∈ r.ids
  · rw [entries_put_of_mem r a hm, List.mem_map] at h
    obtain ⟨d, hd, rfl⟩ := h
    split
    · exact Or.inl rfl
    · exact Or.inr hd
  · rw [entries_put_of_not_mem r a hm, List.mem_append, List.mem_singleton] at h
    exact h.symm

theorem mem_entries_erase {r : Roster α} {id : String} {e : String × α}
    (h : e ∈ (r.erase id).entries) : e ∈ r.entries :=
  (List.mem_filter.1 h).1

theorem values_put_of_mem (r : Roster α) {id : String} (a : α) (h : id ∈ r.ids) :
    (r.put id a).values = r.entries.map (fun e => if e.1 = id then a else e.2) := by
  rw [values, entries_put_of_mem r a h, List.map_map]
  apply List.map_congr_left
  intro e _
  simp only [Function.comp_apply]
  split <;> rfl

theorem values_put_of_not_mem (r : Roster α) {id : String} (a : α) (h : id ∉ r.ids) :
    (r.put id a).values = r.values ++ [a] := by
  rw [values, entries_put_of_not_mem r a h, List.map_append]
  rfl

theorem values_erase {r : Roster α} {key : α → String} (hk : ∀ e ∈ r.entries, key e.2 = e.1)
    (id : String) : (r.erase id).values = r.values.filter (fun a => key a ≠ id) := by
  rw [values, values, List.filter_map, erase]
  apply congrArg (List.map Prod.snd)
  apply List.filter_congr
  intro e he
  simp only [Function.comp_apply, hk e he]

end Roster

end Switchboard
