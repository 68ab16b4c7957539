import Switchboard.Proofs.Breaker.Run
import Switchboard.Proofs.Probe.Entry

namespace Switchboard

namespace Breaker

variable {id k : String} {b b' b'' : Breaker}

structure SameAt (id : String) (b b' : Breaker) : Prop where
  standard : b'.standard = b.standard
  circuit : b'.circuits.get? id = b.circuits.get? id
  pending : b'.pending.get? id = b.pending.get? id

theorem SameAt.refl (id : String) (b : Breaker) : b.SameAt id b := ⟨rfl, rfl, rfl⟩

theorem SameAt.symm (h : b.SameAt id b') : b'.SameAt id b :=
  ⟨h.standard.symm, h.circuit.symm, h.pending.symm⟩

theorem SameAt.trans (h : b.SameAt id b') (h' : b'.SameAt id b'') : b.SameAt id b'' :=
  ⟨h'.standard.trans h.standard, h'.circuit.trans h.circuit, h'.pending.trans h.pending⟩

theorem sameAt_act_of_ne (hk : id ≠ k) (b : Breaker) (a : Act) : b.SameAt id (b.act k a) where
  standard := standard_act b k a
  circuit := (act_of_ne hk b a).1
  pending := (act_of_ne hk b a).2

theorem SameAt.put (h : b.SameAt id b') (c : Circuit) :
    SameAt id { b with circuits := b.circuits.put id c }
      { b' with circuits := b'.circuits.put id c } :=
  ⟨h.standard, by rw [Roster.get?_put_self, Roster.get?_put_self], h.pending⟩

theorem SameAt.succeed (h : b.SameAt id b') (now : Float) :
    (b.act id (.succeed now)).SameAt id (b'.act id (.succeed now)) := by
  simp only [act, recordSuccess, h.circuit]
  cases b.circuits.get? id with
  | none => exact h
  | some c => exact h.put (c.succeed now)

theorem SameAt.fail (h : b.SameAt id b') (now : Float) :
    (b.act id (.fail now)).SameAt id (b'.act id (.fail now)) := by
  simp only [act, recordFailure, h.circuit, h.pending, h.standard]
  cases b.circuits.get? id with
  | some c => exact h.put (c.fail now)
  | none =>
      have herased : SameAt id { b with pending := b.pending.erase id }
          ⟨b.standard, b'.circuits, b'.pending.erase id⟩ :=
        ⟨rfl, h.circuit, by simp [Roster.get?_erase]⟩
      exact herased.put _

end Breaker

def Verdict.sighting? (now : Float) : Verdict → Option Sighting
  | .healthy => some ⟨true, now, none⟩
  | .unhealthy message => some ⟨false, now, some message⟩
  | .cancelled => none

def Verdict.act? (now : Float) : Verdict → Option Breaker.Act
  | .healthy => some (.succeed now)
  | .unhealthy _ => some (.fail now)
  | .cancelled => none

namespace Exchange

variable {id : String} {x y z : Exchange} {s : ProbeSetting} {os ps : List (String × Verdict)}

structure SameAt (id : String) (x y : Exchange) : Prop where
  sighting : y.sightings.get? id = x.sightings.get? id
  breaker : x.breaker.SameAt id y.breaker

theorem SameAt.refl (id : String) (x : Exchange) : x.SameAt id x := ⟨rfl, .refl id x.breaker⟩

theorem SameAt.symm (h : x.SameAt id y) : y.SameAt id x := ⟨h.sighting.symm, h.breaker.symm⟩

theorem SameAt.trans (h : x.SameAt id y) (h' : y.SameAt id z) : x.SameAt id z :=
  ⟨h'.sighting.trans h.sighting, h.breaker.trans h'.breaker⟩

theorem sightings_enter (x : Exchange) (bound : Bool) (now : Float) (id : String) (v : Verdict) :
    (x.enter bound now (id, v)).val.sightings =
      (v.sighting? now).elim x.sightings (x.sightings.put id) := by
  cases v <;> cases bound <;> rfl

theorem breaker_enter (x : Exchange) (bound : Bool) (now : Float) (id : String) (v : Verdict) :
    (x.enter bound now (id, v)).val.breaker =
      if bound then (v.act? now).elim x.breaker (x.breaker.act id) else x.breaker := by
  cases v <;> cases bound <;> rfl

theorem sameAt_enter_of_ne {o : String × Verdict} (h : id ≠ o.1) (x : Exchange) (bound : Bool)
    (now : Float) : x.SameAt id (x.enter bound now o).val := by
  obtain ⟨k, v⟩ := o
  constructor
  · rw [sightings_enter]
    cases v.sighting? now with
    | none => rfl
    | some seen => exact Roster.get?_put_of_ne _ _ h
  · rw [breaker_enter]
    split
    · cases v.act? now with
      | none => exact .refl id x.breaker
      | some a => exact Breaker.sameAt_act_of_ne h x.breaker a
    · exact .refl id x.breaker

theorem SameAt.enter (h : x.SameAt id y) (bound : Bool) (now : Float) (v : Verdict) :
    (x.enter bound now (id, v)).val.SameAt id (y.enter bound now (id, v)).val := by
  constructor
  · rw [sightings_enter, sightings_enter]
    cases v.sighting? now with
    | none => exact h.sighting
    | some seen => exact (Roster.get?_put_self _ _ _).trans (Roster.get?_put_self _ _ _).symm
  · rw [breaker_enter, breaker_enter]
    split
    · cases v with
      | cancelled => exact h.breaker
      | healthy => exact h.breaker.succeed now
      | unhealthy message => exact h.breaker.fail now
    · exact h.breaker

theorem sameAt_entered_of_not_mem (h : id ∉ os.map Prod.fst) (x : Exchange) :
    x.SameAt id (x.entered s os) := by
  induction os generalizing x with
  | nil => exact .refl id x
  | cons o os ih =>
      obtain ⟨hne, hnot⟩ := not_or.1 (List.mem_cons.not.1 h)
      exact (sameAt_enter_of_ne hne x s.bound s.now).trans (ih hnot _)

theorem sameAt_entered {v : Verdict} (hn : (os.map Prod.fst).Nodup) (hm : (id, v) ∈ os)
    (x : Exchange) : (x.enter s.bound s.now (id, v)).val.SameAt id (x.entered s os) := by
  induction os generalizing x with
  | nil => cases hm
  | cons o os ih =>
      obtain ⟨hfirst, hn⟩ := List.nodup_cons.1 hn
      rcases List.mem_cons.1 hm with rfl | hm
      · exact sameAt_entered_of_not_mem hfirst _
      · have hne : id ≠ o.1 := fun h => hfirst (h ▸ List.mem_map_of_mem hm)
        exact ((sameAt_enter_of_ne hne x s.bound s.now).enter s.bound s.now v).trans (ih hn hm _)

theorem sameAt_entered_perm (hn : (os.map Prod.fst).Nodup) (hp : os.Perm ps) (x : Exchange)
    (id : String) : (x.entered s os).SameAt id (x.entered s ps) := by
  have hkeys := hp.map Prod.fst
  by_cases hm : id ∈ os.map Prod.fst
  · obtain ⟨⟨k, v⟩, ho, rfl⟩ := List.mem_map.1 hm
    exact (sameAt_entered hn ho x).symm.trans
      (sameAt_entered (hkeys.nodup_iff.1 hn) (hp.mem_iff.1 ho) x)
  · exact (sameAt_entered_of_not_mem hm x).symm.trans
      (sameAt_entered_of_not_mem (fun h => hm (hkeys.mem_iff.2 h)) x)

end Exchange

end Switchboard
