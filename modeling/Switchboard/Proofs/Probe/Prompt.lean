import Switchboard.Proofs.Breaker.Outcome
import Switchboard.Proofs.Probe.Completion

namespace Switchboard

theorem Breaker.SameAt.faultless {b b' : Breaker} {id : String} (h : b.SameAt id b')
    (hb : b.Faultless id) : b'.Faultless id := by
  have haccount : b'.account id = b.account id := by
    rw [account, account, h.circuit, h.pending, h.standard]
  constructor
  · rw [failures, haccount]
    exact hb.failures
  · rw [Closed, haccount]
    exact hb.closed

def ProbeSetting.Prompt (s : ProbeSetting) : Prop := ∀ id, (s.course id).delayMs = none

variable {s : ProbeSetting} {backends : List String} {x y : Exchange}

namespace Round

variable {r : Round} {ms : Nat}

theorem ends_takeOff (hs : s.Prompt) (ms : Nat) (id : String) : (takeOff s ms id).endsAt = ms := by
  change ms + ((s.course id).within s.plan.timeoutMs).1 = ms
  rw [ProbeCourse.within, hs id]
  rfl

theorem ended_settle (hs : s.Prompt) (hr : ∀ f ∈ r.flights, f.endsAt ≤ ms) (x : Exchange)
    (t : Trail) : ∀ f ∈ (r.settle s ms x t).val.1.flights, f.endsAt ≤ ms := by
  induction hn : r.queue.length using Nat.strongRecOn generalizing r x t with
  | ind n ih =>
      subst hn
      have hland : ∀ f ∈ (r.land ms).flights, f.endsAt ≤ ms :=
        fun f hf => hr f (List.mem_filter.1 hf).1
      rw [Round.settle]
      simp only [Logged.val_bind]
      split
      · next hq =>
          have hshort : ((r.land ms).launch s ms).queue.length < r.queue.length :=
            length_launch_lt hq.1 hq.2 ms
          refine ih _ hshort (r := (r.land ms).launch s ms) ?_ _ _ rfl
          intro f hf
          rcases List.mem_append.1 hf with hf | hf
          · exact hland f hf
          · obtain ⟨id, -, rfl⟩ := List.mem_map.1 hf
            exact (ends_takeOff hs ms id).le
      · exact hland

theorem done_settle (hs : s.Prompt) (h : r.Accounts s backends x y)
    (hu : ∀ id ∈ backends, (s.own id).2 ≠ .cancelled) (hr : ∀ f ∈ r.flights, f.endsAt ≤ ms)
    (t : Trail) : (r.settle s ms y t).val.1.isDone = true ∧
      (r.settle s ms y t).val.1.Accounts s backends x (r.settle s ms y t).val.2.1 := by
  have htimed : r.Timed s (ms + r.queue.length * s.plan.timeoutMs) ms :=
    ⟨le_rfl, fun f hf => Nat.add_le_add_right (hr f hf) _⟩
  obtain ⟨hacc, -, hrest⟩ := h.settle hu htimed t
  refine ⟨?_, hacc⟩
  by_contra hd
  obtain ⟨f, hf⟩ := List.exists_mem_of_ne_nil _
    (flights_ne_nil_of_resting hrest (Bool.eq_false_iff.2 hd))
  exact absurd (ended_settle hs hr y t f hf) (Nat.not_le.2 (hrest.ahead f hf))

end Round

namespace Watched

variable {w : Watched}

theorem done_settle (hs : s.Prompt) (hu : ∀ id ∈ backends, (s.own id).2 ≠ .cancelled)
    (w : Watched) : ∃ q y t,
      (w.settle s (.of backends)).val = (q, { w with exchange := y, trail := t }) ∧
      q.isDone = true ∧ q.Accounts s backends w.exchange y := by
  have hended : ∀ f ∈ (Round.of backends).flights, f.endsAt ≤ w.watch.ms := List.forall_mem_nil _
  obtain ⟨hdone, hacc⟩ := Round.done_settle hs (Round.accounts_of s backends w.exchange) hu hended
    w.trail
  exact ⟨_, _, _, rfl, hdone, hacc⟩

theorem instant_of_prompt (hs : s.Prompt) (hu : ∀ id ∈ backends, (s.own id).2 ≠ .cancelled)
    (h : w.watch.Alone w.watch.ms) (ha : w.awaited = some (.of backends)) :
    ∃ q y t, (w.instant s).val = ⟨w.watch, y, some q, t⟩ ∧ q.isDone = true ∧
      q.Accounts s backends w.exchange y := by
  obtain ⟨outcomes, t, ho, hi⟩ := instant_of_alone (s := s) h le_rfl ha
  have hland := (Round.accounts_of s backends w.exchange).land hu w.watch.ms ho
  have hended : ∀ f ∈ ((Round.of backends).land w.watch.ms).flights, f.endsAt ≤ w.watch.ms :=
    List.forall_mem_nil _
  obtain ⟨hdone, hacc⟩ := Round.done_settle hs hland hu hended t
  exact ⟨_, _, _, hi, hdone, hacc⟩

theorem passUntil_of_prompt (hs : s.Prompt) (hu : ∀ id ∈ backends, (s.own id).2 ≠ .cancelled)
    (h : w.watch.Alone w.watch.ms) (ha : w.awaited = some (.of backends)) (limit : Nat) :
    ∃ q y t, (w.passUntil s limit w.watch.ms).val = ⟨w.watch, y, some q, t⟩ ∧ q.isDone = true ∧
      q.Accounts s backends w.exchange y := by
  obtain ⟨q, y, t, hi, hdone, hacc⟩ := instant_of_prompt hs hu h ha
  refine ⟨q, y, t, ?_, hdone, hacc⟩
  have hover : isOver ⟨w.watch, y, some q, t⟩ = true := by
    change (q.broken || q.isDone) = true
    rw [hdone, Bool.or_true]
  have hmoved : w.moveTo w.watch.ms = w := rfl
  rw [passUntil]
  simp only [Logged.val_bind, hmoved, hi, hover, if_true, Logged.val_pure]

end Watched

namespace Watch

variable {w w' w'' : Watch} {course : String → ProbeCourse} {now : Float}

theorem probeAll_of_prompt (hs : ∀ id, (course id).delayMs = none) (hn : w.backends.Nodup)
    (halone : w.Alone w.ms) (hu : ∀ id ∈ w.backends, (course id).Uncancelled)
    (hne : w.backends ≠ []) (ht : w.plan.timely = true) (now : Float) (x : Exchange) :
    ∃ rs, (w.probeAll course now x).val.1 = .ok rs ∧ (w.probeAll course now x).val.2.2.1 = w ∧
      w.Exact course now x rs (w.probeAll course now x).val.2.2.2 := by
  let s : ProbeSetting := ⟨w.plan, w.bound, now, course⟩
  obtain ⟨q, y, t, hpassed, hdone, hacc⟩ := Watched.passUntil_of_prompt (s := s)
    (w := w.watched x (some (.of w.backends))) hs
    (fun id hid => uncancelled_own (hu id hid)) halone rfl
    (w.ms + w.backends.length * w.plan.timeoutMs)
  exact ⟨q.results, exact_of_done hn hu hne ht hpassed rfl hdone hacc⟩

theorem Exact.results_perm {x y : Exchange} {rs : List (String × Bool)}
    (h : w.Exact course now x rs y) :
    rs.Perm (w.backends.map fun id => (id, (course id).succeeds w.plan.timeoutMs)) := by
  have hrs : rs = (rs.map Prod.fst).map fun id => (id, (course id).succeeds w.plan.timeoutMs) := by
    rw [List.map_map]
    refine (List.map_id rs).symm.trans (List.map_congr_left fun e he => ?_)
    exact Prod.ext rfl (h.values e he)
  rw [hrs]
  exact h.keys.map _

theorem Exact.recovers {x y : Exchange} {rs : List (String × Bool)} {id : String}
    (h : w.Exact course now x rs y) (hbound : w.bound = true) (hid : (id, true) ∈ rs) :
    y.sightings.get? id = some ⟨true, now, none⟩ ∧ y.breaker.Faultless id := by
  have hsucceeds : (course id).succeeds w.plan.timeoutMs = true := (h.values _ hid).symm
  have hmarked := h.marked id (h.keys.subset (List.mem_map_of_mem (f := Prod.fst) hid))
  have hsighting := hmarked.sighting
  have hcircuit := hmarked.circuit
  rw [hsucceeds] at hsighting hcircuit
  rw [hbound] at hcircuit
  exact ⟨hsighting, hcircuit.faultless (x.breaker.faultless_succeed id now)⟩

structure Calm (w w' : Watch) : Prop where
  plan : w'.plan = w.plan
  bound : w'.bound = w.bound
  backends : w'.backends = w.backends
  alone : w'.Alone w'.ms

theorem Calm.trans (h : w.Calm w') (h' : w'.Calm w'') : w.Calm w'' :=
  ⟨h'.plan.trans h.plan, h'.bound.trans h.bound, h'.backends.trans h.backends, h'.alone⟩

end Watch

namespace Watched

variable {w : Watched}

theorem calm_rest (hstrays : w.watch.strays = []) : w.watch.Calm w.rest.watch where
  plan := rfl
  bound := rfl
  backends := rfl
  alone := by
    refine ⟨hstrays, rfl, fun wake hwake => ?_⟩
    cases hwake
    exact Nat.lt_add_of_pos_right w.watch.plan.interval_pos

theorem calm_runTask (hs : s.Prompt) (hu : ∀ id ∈ w.watch.backends, (s.own id).2 ≠ .cancelled)
    (hstrays : w.watch.strays = []) (hidle : Watch.taskRound w.watch.task = none) :
    w.watch.Calm (w.runTask s).val.watch ∧ (w.runTask s).val.watch.ms = w.watch.ms ∧
      (w.runTask s).val.awaited = w.awaited := by
  have hsame (hasleep : ∀ wake, Watch.wake? w.watch.task = some wake → w.watch.ms < wake) :
      w.watch.Calm w.watch := ⟨rfl, rfl, rfl, hstrays, hidle, hasleep⟩
  rw [runTask]
  cases ht : w.watch.task with
  | none => exact ⟨hsame fun wake hwake => by simp [ht, Watch.wake?] at hwake, rfl, rfl⟩
  | ended => exact ⟨hsame fun wake hwake => by simp [ht, Watch.wake?] at hwake, rfl, rfl⟩
  | probing r => simp [ht, Watch.taskRound] at hidle
  | resting wake =>
      dsimp only
      split
      · next hearly =>
          refine ⟨hsame fun wake' hwake => ?_, rfl, rfl⟩
          rw [ht] at hwake
          exact Option.some.inj hwake ▸ hearly
      · split
        · exact ⟨calm_rest hstrays, rfl, rfl⟩
        · split
          · obtain ⟨q, y, t, hsettle, hdone, hacc⟩ := done_settle hs hu w
            rw [proceed]
            simp only [Logged.val_bind, hsettle, hacc.whole, hdone, if_true, Bool.false_eq_true,
              if_false, Logged.val_pure]
            exact ⟨calm_rest hstrays, rfl, rfl⟩
          · exact ⟨⟨rfl, rfl, rfl, hstrays, rfl, fun _ hwake => by cases hwake⟩, rfl, rfl⟩

theorem instant_of_idle (hstrays : w.watch.strays = [])
    (hidle : Watch.taskRound w.watch.task = none) (ha : w.awaited = none) :
    ∃ y t, (w.instant s).val = (runTask s ⟨w.watch, y, none, t⟩).val := by
  rw [instant]
  simp only [Logged.val_bind, land_of_idle hstrays hidle, ha, Option.map_none, hstrays,
    List.foldlM_nil, Logged.val_pure, unstrayed hstrays]
  exact ⟨_, _, rfl⟩

theorem next_of_idle (hstrays : w.watch.strays = []) (hidle : Watch.taskRound w.watch.task = none)
    (ha : w.awaited = none) : w.next? = Watch.wake? w.watch.task := by
  rw [next?, hstrays, hidle, ha]
  cases Watch.wake? w.watch.task <;> rfl

/-- A watch that is calm up to some time goes on so: a round of its own begins and ends in one
instant, and the next lies ahead. -/
theorem calm_passUntil (hs : s.Prompt) (hu : ∀ id, (s.own id).2 ≠ .cancelled)
    (hstrays : w.watch.strays = []) (hidle : Watch.taskRound w.watch.task = none)
    (ha : w.awaited = none) (limit now : Nat) :
    w.watch.Calm (w.passUntil s limit now).val.watch := by
  induction hn : limit - now using Nat.strongRecOn generalizing now w with
  | ind n ih =>
      subst hn
      obtain ⟨y, t, hi⟩ := instant_of_idle (s := s) (w := w.moveTo now) hstrays hidle ha
      obtain ⟨hcalm, hms, hnone⟩ := calm_runTask (w := ⟨(w.moveTo now).watch, y, none, t⟩) hs
        (fun id _ => hu id) hstrays hidle
      rw [← hi] at hcalm hms hnone
      rw [passUntil]
      simp only [Logged.val_bind]
      generalize ((w.moveTo now).instant s).val = next at hcalm hms hnone ⊢
      have hhere : w.watch.Calm next.watch := ⟨hcalm.plan, hcalm.bound, hcalm.backends, hcalm.alone⟩
      have hlater (hfree : ∀ wake, Watch.wake? next.watch.task = some wake → max now limit < wake) :
          w.watch.Calm (next.moveTo (max now limit)).watch :=
        ⟨hhere.plan, hhere.bound, hhere.backends, hhere.alone.strays, hhere.alone.idle, hfree⟩
      have hover : next.isOver = false := by rw [isOver, hnone]
      rw [hover, next_of_idle hhere.alone.strays hhere.alone.idle hnone]
      simp only [Bool.false_eq_true, if_false]
      cases hwake : Watch.wake? next.watch.task with
      | none => exact hlater fun wake h => by simp [hwake] at h
      | some wake =>
          have hahead : now < wake := by
            have := hhere.alone.asleep wake hwake
            rwa [hms] at this
          dsimp only
          split
          · exact hhere.trans (ih (limit - wake) (by omega) hhere.alone.strays hhere.alone.idle
              hnone wake rfl)
          · next hlimit =>
              refine hlater fun wake' h => ?_
              obtain rfl : wake = wake' := Option.some.inj (hwake.symm.trans h)
              omega

end Watched

theorem Watch.calm_pass {w : Watch} {course : String → ProbeCourse}
    (hs : ∀ id, (course id).delayMs = none) (hu : ∀ id, (course id).Uncancelled)
    (halone : w.Alone w.ms) (now : Float) (x : Exchange) (ms : Nat) :
    w.Calm (w.pass course now x ms).val.2.1 := by
  let s : ProbeSetting := ⟨w.plan, w.bound, now, course⟩
  exact Watched.calm_passUntil (s := s) (w := w.watched x none) hs
    (fun id => uncancelled_own (hu id)) halone.strays halone.idle rfl (w.ms + ms) w.ms

end Switchboard
