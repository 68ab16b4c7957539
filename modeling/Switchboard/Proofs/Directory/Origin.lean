import Switchboard.Proofs.Directory.Run

namespace Switchboard

namespace Directory

def CreatedAt (ids : Nat → String) (d : Directory) (deeds : List Deed) (now : Readings)
    (i : Identity) : Prop :=
  ∃ before r after, deeds = before ++ .create r now :: after ∧
    ((runFrom ids d before).createFrom ids r now).val.1 = .ok i

def CreatedAs (ids : Nat → String) (deeds : List Deed) (i : Identity) : Prop :=
  ∃ now, CreatedAt ids empty deeds now i

inductive Origin (ids : Nat → String) (d : Directory) (deeds : List Deed) (id : String)
    (i : Identity) : Prop
  | old {j s} : d.get? id = some j → i = { j with status := s } → Origin ids d deeds id i
  | new {j s now n} : CreatedAt ids d deeds now j → j.id = id → id = ids n →
      i = { j with status := s } → Origin ids d deeds id i

variable {ids : Nat → String} {d : Directory} {deeds : List Deed} {deed : Deed} {now : Readings}
  {id : String} {i : Identity}

theorem CreatedAt.cons (h : CreatedAt ids (act ids d deed) deeds now i) :
    CreatedAt ids d (deed :: deeds) now i := by
  obtain ⟨before, r, after, rfl, hi⟩ := h
  exact ⟨deed :: before, r, after, rfl, hi⟩

theorem CreatedAt.append (h : CreatedAt ids d deeds now i) (later : List Deed) :
    CreatedAt ids d (deeds ++ later) now i := by
  obtain ⟨before, r, after, rfl, hi⟩ := h
  exact ⟨before, r, after ++ later, by rw [List.append_assoc, List.cons_append], hi⟩

theorem CreatedAt.prepend {earlier : List Deed}
    (h : CreatedAt ids (runFrom ids d earlier) deeds now i) :
    CreatedAt ids d (earlier ++ deeds) now i := by
  induction earlier generalizing d with
  | nil => exact h
  | cons deed earlier ih => exact (ih h).cons

theorem CreatedAt.mem (h : CreatedAt ids d deeds now i) : ∃ r, Deed.create r now ∈ deeds := by
  obtain ⟨before, r, after, rfl, -⟩ := h
  exact ⟨r, List.mem_append_right _ List.mem_cons_self⟩

theorem origin_act (h : (act ids d deed).get? id = some i) : Origin ids d [deed] id i := by
  cases deed with
  | revoke k =>
      rw [act, get?_revoke, Option.map_eq_some_iff] at h
      obtain ⟨j, hj, rfl⟩ := h
      refine .old (s := if id = k then Identity.revoked else j.status) hj ?_
      split <;> rfl
  | create r now =>
      have hc := createFrom_creation ids d r now
      have hmade (j : Identity) (hj : (d.createFrom ids r now).val.1 = .ok j) :
          CreatedAt ids d [.create r now] now j := ⟨[], r, [], rfl, hj⟩
      rw [act] at h
      generalize (d.createFrom ids r now).val = after at hc h hmade
      cases hc with
      | refused _ => exact .old h rfl
      | dateless _ _ => exact .old h rfl
      | taken _ _ _ => exact .old h rfl
      | stored hm he hn =>
          rw [get?, Roster.get?_put] at h
          split at h
          · next hid =>
              cases h
              exact .new (hmade _ rfl) hid.symm hid rfl
          · exact .old h rfl

theorem origin_runFrom (h : (runFrom ids d deeds).get? id = some i) : Origin ids d deeds id i := by
  induction deeds generalizing d with
  | nil => exact .old h rfl
  | cons deed deeds ih =>
      cases ih (d := act ids d deed) h with
      | new hc hid hn hi => exact .new hc.cons hid hn hi
      | old hj hi =>
          subst hi
          cases origin_act hj with
          | old hk hj =>
              subst hj
              exact .old hk rfl
          | new hc hid hn hj =>
              subst hj
              exact .new (hc.append deeds) hid hn rfl

theorem createdAt_of_get? (h : (run ids deeds).get? id = some i) :
    ∃ now j n s, CreatedAt ids empty deeds now j ∧ j.id = id ∧ id = ids n ∧
      i = { j with status := s } := by
  cases origin_runFrom h with
  | old hj _ => cases hj
  | new hc hid hn hi => exact ⟨_, _, _, _, hc, hid, hn, hi⟩

end Directory

end Switchboard
