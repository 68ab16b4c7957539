import Mathlib.Order.Nat
import Switchboard.Proofs.Probe.Order

namespace Switchboard

def ProbeSetting.own (s : ProbeSetting) (id : String) : String × Verdict :=
  (id, ((s.course id).within s.plan.timeoutMs).2)

variable {s : ProbeSetting} {backends : List String} {x y : Exchange} {limit ms : Nat}

namespace Round

variable {r : Round}

theorem passed_append (os ps : List (String × Verdict)) :
    passed (os ++ ps) = passed os ++ passed ps :=
  List.filterMap_append

theorem passed_perm {os ps : List (String × Verdict)} (h : os.Perm ps) :
    (passed os).Perm (passed ps) :=
  h.filterMap _

def pending (s : ProbeSetting) (r : Round) : List (String × Verdict) :=
  r.flights.map Flight.outcome ++ r.queue.map s.own

/-- Every probe is either entered and noted, or under way, or still to start. -/
structure Accounts (s : ProbeSetting) (backends : List String) (x : Exchange) (r : Round)
    (y : Exchange) : Prop where
  whole : r.broken = false
  entered : ∃ os, y = x.entered s os ∧ r.results.Perm (passed os) ∧
    (os ++ r.pending s).Perm (backends.map s.own)

structure Timed (s : ProbeSetting) (limit ms : Nat) (r : Round) : Prop where
  now : ms + r.queue.length * s.plan.timeoutMs ≤ limit
  ends : ∀ f ∈ r.flights, f.endsAt + r.queue.length * s.plan.timeoutMs ≤ limit

theorem accounts_of (s : ProbeSetting) (backends : List String) (x : Exchange) :
    (of backends).Accounts s backends x x where
  whole := rfl
  entered := ⟨[], rfl, .nil, .refl _⟩

theorem timed_of (s : ProbeSetting) (backends : List String) (ms : Nat) :
    (of backends).Timed s (ms + (of backends).horizon s.plan) ms where
  now := le_rfl
  ends _ hf := absurd hf List.not_mem_nil

theorem dueAt_perm (r : Round) (ms : Nat) :
    (r.dueAt ms ++ (r.land ms).flights).Perm r.flights := by
  have h := List.filter_append_perm (fun f : Flight => decide (f.endsAt ≤ ms)) r.flights
  have hneg : (fun f : Flight => !decide (f.endsAt ≤ ms)) = fun f => decide (ms < f.endsAt) := by
    funext f
    rw [← decide_not]
    simp
  rw [hneg] at h
  exact h

theorem Accounts.land (h : r.Accounts s backends x y)
    (hu : ∀ id ∈ backends, (s.own id).2 ≠ .cancelled) (ms : Nat)
    {outcomes : List (String × Verdict)} (ho : outcomes.Perm (r.outcomesAt ms)) :
    (r.land ms).Accounts s backends x (y.entered s outcomes) := by
  obtain ⟨os, rfl, hresults, hperm⟩ := h.entered
  have hpending : (outcomes ++ (r.land ms).pending s).Perm (r.pending s) := by
    have hflights := (r.dueAt_perm ms).map Flight.outcome
    rw [List.map_append] at hflights
    rw [pending, ← List.append_assoc]
    exact ((ho.append_right _).trans hflights).append_right _
  have hall : (os ++ outcomes ++ (r.land ms).pending s).Perm (backends.map s.own) := by
    rw [List.append_assoc]
    exact (hpending.append_left os).trans hperm
  refine ⟨?_, os ++ outcomes, (x.entered_append s os outcomes).symm, ?_, hall⟩
  · have hany : (r.outcomesAt ms).any (fun o => o.2 = .cancelled) = false := by
      refine List.any_eq_false.2 fun o hm => ?_
      have hmem : o ∈ backends.map s.own := by
        refine hall.subset ?_
        simp [ho.mem_iff.2 hm]
      obtain ⟨id, hid, rfl⟩ := List.mem_map.1 hmem
      simpa using hu id hid
    change (r.broken || (r.outcomesAt ms).any (fun o => o.2 = .cancelled)) = false
    rw [h.whole, hany]
    rfl
  · rw [passed_append]
    exact hresults.append (passed_perm ho.symm)

theorem Accounts.launch (h : r.Accounts s backends x y) (ms : Nat) :
    (r.launch s ms).Accounts s backends x y := by
  have hpending : (r.launch s ms).pending s = r.pending s := by
    have hstarted : ((r.queue.take (r.free s)).map (takeOff s ms)).map Flight.outcome =
        (r.queue.take (r.free s)).map s.own := List.map_map
    change (r.flights ++ (r.queue.take (r.free s)).map (takeOff s ms)).map Flight.outcome ++
      (r.queue.drop (r.free s)).map s.own = _
    rw [List.map_append, hstarted, List.append_assoc, ← List.map_append, List.take_append_drop]
    rfl
  exact ⟨h.whole, by rw [hpending]; exact h.entered⟩

theorem Timed.land (h : r.Timed s limit ms) (t : Nat) : (r.land t).Timed s limit ms :=
  ⟨h.now, fun f hf => h.ends f (List.mem_filter.1 hf).1⟩

theorem within_le (c : ProbeCourse) (timeoutMs : Nat) : (c.within timeoutMs).1 ≤ timeoutMs := by
  unfold ProbeCourse.within
  split
  · exact Nat.zero_le _
  · split
    · next hd => exact hd.le
    · exact le_rfl

theorem Timed.launch (h : r.Timed s limit ms) (hq : r.queue ≠ []) (hf : 0 < r.free s) :
    (r.launch s ms).Timed s limit ms := by
  have hlength : (r.launch s ms).queue.length + 1 ≤ r.queue.length := length_launch_lt hq hf ms
  have hstep := Nat.mul_le_mul_right s.plan.timeoutMs hlength
  rw [Nat.add_mul, Nat.one_mul] at hstep
  have hnow := h.now
  refine ⟨by omega, fun f hf => ?_⟩
  rcases List.mem_append.1 hf with hf | hf
  · have := h.ends f hf
    omega
  · obtain ⟨id, -, rfl⟩ := List.mem_map.1 hf
    have hlasts := within_le (s.course id) s.plan.timeoutMs
    change ms + ((s.course id).within s.plan.timeoutMs).1 + _ ≤ limit
    omega

structure Resting (s : ProbeSetting) (ms : Nat) (r : Round) : Prop where
  ahead : ∀ f ∈ r.flights, ms < f.endsAt
  full : r.queue = [] ∨ r.free s = 0

theorem flights_ne_nil_of_resting (h : r.Resting s ms) (hd : r.isDone = false) :
    r.flights ≠ [] := by
  intro hnil
  rw [isDone, hnil, List.isEmpty_nil, Bool.and_true] at hd
  rcases h.full with hq | hf
  · rw [hq] at hd
    cases hd
  · have hpos := s.plan.concurrency_pos
    rw [free, hnil, List.length_nil] at hf
    omega

theorem Accounts.settle (h : r.Accounts s backends x y)
    (hu : ∀ id ∈ backends, (s.own id).2 ≠ .cancelled) (ht : r.Timed s limit ms) (t : Trail) :
    (r.settle s ms y t).val.1.Accounts s backends x (r.settle s ms y t).val.2.1 ∧
      (r.settle s ms y t).val.1.Timed s limit ms ∧ (r.settle s ms y t).val.1.Resting s ms := by
  induction hn : r.queue.length using Nat.strongRecOn generalizing r y t with
  | ind n ih =>
      subst hn
      have hl := h.land hu ms (.refl _)
      rw [Round.settle]
      simp only [Logged.val_bind, Exchange.enterAll_val]
      split
      · next hq =>
          have hshort : ((r.land ms).launch s ms).queue.length < r.queue.length :=
            length_launch_lt hq.1 hq.2 ms
          exact ih _ hshort (hl.launch ms) ((ht.land ms).launch hq.1 hq.2) _ rfl
      · next hq =>
          refine ⟨hl, ht.land ms, fun f hf => of_decide_eq_true (List.mem_filter.1 hf).2, ?_⟩
          by_cases hempty : (r.land ms).queue = []
          · exact .inl hempty
          · exact .inr (Nat.eq_zero_of_not_pos fun hf => hq ⟨hempty, hf⟩)

end Round

structure Watch.Alone (limit : Nat) (w : Watch) : Prop where
  strays : w.strays = []
  idle : taskRound w.task = none
  asleep : ∀ wake, wake? w.task = some wake → limit < wake

namespace Watched

variable {w : Watched} {r : Round}

theorem due_of_alone (h : w.watch.Alone limit) (ha : w.awaited = some r) :
    w.due = (r.dueAt w.watch.ms).mergeSort Flight.before := by
  simp [due, rounds, h.strays, h.idle, ha]

theorem runTask_of_alone (h : w.watch.Alone limit) (hms : w.watch.ms ≤ limit) :
    (w.runTask s).val = w := by
  have hidle := h.idle
  have hasleep := h.asleep
  rw [runTask]
  cases ht : w.watch.task with
  | none => rfl
  | ended => rfl
  | probing q => simp [ht, Watch.taskRound] at hidle
  | resting wake =>
      have hwake : w.watch.ms < wake := hms.trans_lt (hasleep wake (by rw [ht]; rfl))
      dsimp only
      rw [if_pos hwake]
      rfl

theorem landRound_of_idle {t : WatchTask} (h : Watch.taskRound t = none) (ms : Nat) :
    landRound ms t = t := by
  cases t with
  | probing q => cases h
  | _ => rfl

theorem unstrayed (h : w.watch.strays = []) : { w.watch with strays := [] } = w.watch := by
  rw [← h]

theorem land_of_idle (hstrays : w.watch.strays = []) (hidle : Watch.taskRound w.watch.task = none) :
    (w.land s).val = ⟨w.watch, w.exchange.entered s (w.due.map Flight.outcome),
      w.awaited.map fun r => r.land w.watch.ms, w.trail.wake (w.due.countP Flight.sleeping)⟩ := by
  rw [land]
  simp only [Logged.val_bind, Logged.val_pure, Exchange.enterAll_val, landRound_of_idle hidle,
    hstrays, List.map_nil, unstrayed hstrays]

def awaiting (w : Watched) (a : Round × Exchange × Trail) : Watched :=
  ⟨w.watch, a.2.1, some a.1, a.2.2⟩

theorem runAwaited_of_some (ha : w.awaited = some r) :
    (w.runAwaited s).val = w.awaiting (r.settle s w.watch.ms w.exchange w.trail).val := by
  rw [runAwaited, ha]
  rfl

theorem instant_of_alone (h : w.watch.Alone limit) (hms : w.watch.ms ≤ limit)
    (ha : w.awaited = some r) :
    ∃ outcomes t, outcomes.Perm (r.outcomesAt w.watch.ms) ∧ (w.instant s).val = w.awaiting
      ((r.land w.watch.ms).settle s w.watch.ms (w.exchange.entered s outcomes) t).val := by
  refine ⟨w.due.map Flight.outcome, w.trail.wake (w.due.countP Flight.sleeping), ?_, ?_⟩
  · rw [due_of_alone h ha]
    exact (List.mergeSort_perm _ _).map Flight.outcome
  · rw [instant]
    simp only [Logged.val_bind, land_of_idle h.strays h.idle, ha, Option.map_some, h.strays,
      List.foldlM_nil, Logged.val_pure, unstrayed h.strays]
    rw [runAwaited_of_some rfl]
    exact runTask_of_alone h hms

theorem next_of_alone (h : w.watch.Alone limit) (ha : w.awaited = some r) (ht : r.Timed s limit ms)
    (hr : r.Resting s ms) (hd : r.isDone = false) :
    ∃ t, w.next? = some t ∧ ms < t ∧ t + r.queue.length * s.plan.timeoutMs ≤ limit := by
  obtain ⟨t, ht?⟩ : ∃ t, r.nextEnd? = some t := by
    refine Option.isSome_iff_exists.1 (List.isSome_min?_of_ne_nil fun hnil => ?_)
    exact Round.flights_ne_nil_of_resting hr hd (List.map_eq_nil_iff.1 hnil)
  obtain ⟨f, hf, rfl⟩ := List.mem_map.1 (List.min?_mem ht?)
  have hend := ht.ends f hf
  refine ⟨f.endsAt, ?_, hr.ahead f hf, hend⟩
  have hnext : w.next? = ([f.endsAt] ++ (Watch.wake? w.watch.task).toList).min? := by
    simp [next?, ha, h.strays, h.idle, ht?]
  rw [hnext]
  refine List.min?_eq_some_iff.2 ⟨List.mem_append_left _ List.mem_cons_self, fun t hm => ?_⟩
  rcases List.mem_append.1 hm with hm | hm
  · exact (List.mem_singleton.1 hm).ge
  · have hwake := h.asleep t (Option.mem_toList.1 hm)
    omega

theorem passUntil_of_alone (hu : ∀ id ∈ backends, (s.own id).2 ≠ .cancelled) (h : w.watch.Alone limit)
    (ha : w.awaited = some r) (hr : r.Accounts s backends x w.exchange) (ht : r.Timed s limit ms) :
    ∃ q, (w.passUntil s limit ms).val.awaited = some q ∧ q.isDone = true ∧
      q.Accounts s backends x (w.passUntil s limit ms).val.exchange := by
  -- each instant is followed by a later one within the limit, until the round is done
  induction hn : limit - ms using Nat.strongRecOn generalizing ms w r with
  | ind n ih =>
      subst hn
      have hmoved : (w.moveTo ms).watch.Alone limit := ⟨h.strays, h.idle, h.asleep⟩
      have hms : ms ≤ limit := (Nat.le_add_right _ _).trans ht.now
      obtain ⟨outcomes, t, ho, hi⟩ := instant_of_alone (s := s) hmoved hms ha
      obtain ⟨hacc, htimed, hrest⟩ := (hr.land hu ms ho).settle hu (ht.land ms) t
      change _ = (w.moveTo ms).awaiting
        ((r.land ms).settle s ms (w.exchange.entered s outcomes) t).val at hi
      rw [passUntil]
      simp only [Logged.val_bind, hi]
      generalize ((r.land ms).settle s ms (w.exchange.entered s outcomes) t).val = a at *
      have halone : ((w.moveTo ms).awaiting a).watch.Alone limit := ⟨h.strays, h.idle, h.asleep⟩
      have hover : ((w.moveTo ms).awaiting a).isOver = a.1.isDone := by
        change (a.1.broken || a.1.isDone) = _
        rw [hacc.whole, Bool.false_or]
      cases hd : a.1.isDone with
      | true =>
          rw [if_pos (hover.trans hd)]
          exact ⟨a.1, rfl, hd, hacc⟩
      | false =>
          obtain ⟨u, hnext, hlt, hle⟩ := next_of_alone halone rfl htimed hrest hd
          have hu : u ≤ limit := (Nat.le_add_right _ _).trans hle
          rw [if_neg (by rw [hover, hd]; simp)]
          simp only [hnext, dif_pos (And.intro hlt hu)]
          exact ih (limit - u) (by omega) halone rfl hacc ⟨hle, htimed.ends⟩ rfl

end Watched

namespace ProbeCourse

def inTime (c : ProbeCourse) (timeoutMs : Nat) : Bool := c.delayMs.all fun d => d < timeoutMs

def succeeds (c : ProbeCourse) (timeoutMs : Nat) : Bool :=
  c.inTime timeoutMs && c.ending = .answers true

def complaint (c : ProbeCourse) (timeoutMs : Nat) : String :=
  if c.inTime timeoutMs then
    match c.ending with
    | .answers _ => "Probe returned unhealthy"
    | .raises kind message =>
        if kind = "TimeoutError" then "Probe timed out"
        else if message = "" then "Probe failed" else message
  else "Probe timed out"

def Uncancelled (c : ProbeCourse) : Prop := ∀ message, c.ending ≠ .raises "CancelledError" message

variable {c : ProbeCourse}

theorem complaint_ne_empty (c : ProbeCourse) (timeoutMs : Nat) : c.complaint timeoutMs ≠ "" := by
  unfold complaint
  split
  · split
    · decide
    · split
      · decide
      · split
        · decide
        · assumption
  · decide

theorem verdict_of_inTime (h : c.Uncancelled) {timeoutMs : Nat} (hin : c.inTime timeoutMs = true) :
    c.ending.verdict =
      if c.succeeds timeoutMs then .healthy else .unhealthy (c.complaint timeoutMs) := by
  rw [complaint, if_pos hin, succeeds, hin, Bool.true_and]
  cases he : c.ending with
  | answers healthy => cases healthy <;> rfl
  | raises kind message =>
      have hk : kind ≠ "CancelledError" := by
        rintro rfl
        exact h message he
      have hne : ¬ decide (ProbeEnding.raises kind message = .answers true) = true := by simp
      rw [if_neg hne]
      by_cases ht : kind = "TimeoutError"
      · rw [ProbeEnding.verdict, if_pos ht]
        simp [ht, ProbeEnding.timedOut]
      · rw [ProbeEnding.verdict, if_neg ht, if_neg hk]
        simp [ht]

theorem verdict_of_uncancelled (h : c.Uncancelled) (timeoutMs : Nat) :
    (c.within timeoutMs).2 =
      if c.succeeds timeoutMs then .healthy else .unhealthy (c.complaint timeoutMs) := by
  rw [within]
  cases hd : c.delayMs with
  | none => exact verdict_of_inTime h (by simp [inTime, hd])
  | some d =>
      dsimp only
      split
      · next hlt => exact verdict_of_inTime h (by simp [inTime, hd, hlt])
      · next hlate =>
          have hout : c.inTime timeoutMs = false := by simpa [inTime, hd] using hlate
          rw [succeeds, complaint, hout]
          rfl

end ProbeCourse

namespace Watch

variable {w : Watch} {course : String → ProbeCourse} {now : Float} {id : String}

structure Marked (w : Watch) (c : ProbeCourse) (now : Float) (id : String) (x y : Exchange) :
    Prop where
  sighting : y.sightings.get? id = some (if c.succeeds w.plan.timeoutMs then ⟨true, now, none⟩
    else ⟨false, now, some (c.complaint w.plan.timeoutMs)⟩)
  worded : c.complaint w.plan.timeoutMs ≠ ""
  circuit : (if w.bound then x.breaker.act id
    (if c.succeeds w.plan.timeoutMs then .succeed now else .fail now) else x.breaker).SameAt id
      y.breaker

theorem passed_own {s : ProbeSetting} {backends : List String}
    (hu : ∀ id ∈ backends, (s.course id).Uncancelled) :
    Round.passed (backends.map s.own) =
      backends.map fun id => (id, (s.course id).succeeds s.plan.timeoutMs) := by
  induction backends with
  | nil => rfl
  | cons id backends ih =>
      obtain ⟨hid, hu⟩ := List.forall_mem_cons.1 hu
      have hown : s.own id = (id, if (s.course id).succeeds s.plan.timeoutMs then .healthy
          else .unhealthy ((s.course id).complaint s.plan.timeoutMs)) :=
        congrArg (Prod.mk id) (ProbeCourse.verdict_of_uncancelled hid _)
      rw [List.map_cons, List.map_cons, ← ih hu, hown]
      cases (s.course id).succeeds s.plan.timeoutMs <;> rfl

theorem marked_of_entered (hu : (course id).Uncancelled)
    (hy : (x.enter w.bound now (id, ((course id).within w.plan.timeoutMs).2)).val.SameAt id y) :
    w.Marked (course id) now id x y where
  worded := (course id).complaint_ne_empty _
  sighting := by
    rw [hy.sighting, Exchange.sightings_enter, ProbeCourse.verdict_of_uncancelled hu]
    cases (course id).succeeds w.plan.timeoutMs with
    | true => exact Roster.get?_put_self _ _ _
    | false => exact Roster.get?_put_self _ _ _
  circuit := by
    have hc := hy.breaker
    rw [Exchange.breaker_enter, ProbeCourse.verdict_of_uncancelled hu] at hc
    cases hok : (course id).succeeds w.plan.timeoutMs with
    | true =>
        rw [hok] at hc
        exact hc
    | false =>
        rw [hok] at hc
        exact hc

structure Exact (w : Watch) (course : String → ProbeCourse) (now : Float) (x : Exchange)
    (rs : List (String × Bool)) (y : Exchange) : Prop where
  keys : (rs.map Prod.fst).Perm w.backends
  values : ∀ e ∈ rs, e.2 = (course e.1).succeeds w.plan.timeoutMs
  marked : ∀ id ∈ w.backends, w.Marked (course id) now id x y
  untouched : ∀ id ∉ w.backends, x.SameAt id y
  once : ∃ os : List (String × Verdict), os.Perm
    (w.backends.map fun id => (id, ((course id).within w.plan.timeoutMs).2)) ∧
      y = (x.enterAll w.bound now os).val
  anyOrder : ∀ os : List (String × Verdict), os.Perm
    (w.backends.map fun id => (id, ((course id).within w.plan.timeoutMs).2)) →
      ∀ id, y.SameAt id (x.enterAll w.bound now os).val

theorem exact_of_entered (hn : w.backends.Nodup)
    (hu : ∀ id ∈ w.backends, (course id).Uncancelled) {rs : List (String × Bool)}
    {os : List (String × Verdict)}
    (hos : os.Perm (w.backends.map (ProbeSetting.own ⟨w.plan, w.bound, now, course⟩)))
    (hrs : rs.Perm (Round.passed os)) :
    w.Exact course now x rs (x.entered ⟨w.plan, w.bound, now, course⟩ os) := by
  have hids : (w.backends.map (ProbeSetting.own ⟨w.plan, w.bound, now, course⟩)).map Prod.fst =
      w.backends := by
    rw [List.map_map]
    exact List.map_id _
  have hkeys : (os.map Prod.fst).Perm w.backends := hids ▸ hos.map Prod.fst
  have hnodup : (os.map Prod.fst).Nodup := hkeys.nodup_iff.2 hn
  have hresults := hrs.trans (Round.passed_perm hos)
  rw [passed_own hu] at hresults
  refine ⟨?_, ?_, ?_, ?_, ⟨os, hos, (Exchange.enterAll_val _ _ _).symm⟩, ?_⟩
  · have hfst := hresults.map Prod.fst
    rw [List.map_map] at hfst
    exact hfst.trans (.of_eq (List.map_id _))
  · intro e he
    obtain ⟨id, -, rfl⟩ := List.mem_map.1 (hresults.subset he)
    rfl
  · intro id hid
    exact marked_of_entered (hu id hid) (Exchange.sameAt_entered (s := ⟨w.plan, w.bound, now, course⟩)
      hnodup (hos.mem_iff.2 (List.mem_map_of_mem hid)) x)
  · intro id hid
    exact Exchange.sameAt_entered_of_not_mem (fun hm => hid (hkeys.mem_iff.1 hm)) x
  · intro ps hps id
    rw [Exchange.enterAll_val x ⟨w.plan, w.bound, now, course⟩ ps]
    exact Exchange.sameAt_entered_perm hnodup (hos.trans hps.symm) x id

theorem probeAll_of_nil (hnil : w.backends = []) (course : String → ProbeCourse) (now : Float)
    (x : Exchange) :
    (w.probeAll course now x).val.1 = .ok [] ∧ (w.probeAll course now x).val.2.2.2 = x := by
  simp [probeAll, hnil]

theorem probeAll_of_untimely (hne : w.backends ≠ []) (hlate : w.plan.timely = false)
    (course : String → ProbeCourse) (now : Float) (x : Exchange) :
    (w.probeAll course now x).val.1 = .error (.overflow .operand) ∧
      (w.probeAll course now x).val.2.2.2 = x := by
  simp [probeAll, hne, hlate]

theorem probeAll_of_timely (hne : w.backends ≠ []) (ht : w.plan.timely = true)
    (course : String → ProbeCourse) (now : Float) (x : Exchange) :
    let s := ((w.watched x (some (.of w.backends))).passUntil ⟨w.plan, w.bound, now, course⟩
      (w.ms + w.backends.length * w.plan.timeoutMs) w.ms).val
    let ended := s.watch.conclude (s.awaited.getD (.of w.backends))
    (w.probeAll course now x).val.1 = ended.1 ∧
      (w.probeAll course now x).val.2.2 = (ended.2, s.exchange) := by
  have hsome : w.backends.isEmpty = false := by simp [hne]
  rw [probeAll, hsome, ht]
  exact ⟨rfl, rfl⟩

theorem exact_of_done (hn : w.backends.Nodup) (hu : ∀ id ∈ w.backends, (course id).Uncancelled)
    (hne : w.backends ≠ []) (ht : w.plan.timely = true) {x : Exchange} {s : Watched} {q : Round}
    (hs : ((w.watched x (some (.of w.backends))).passUntil ⟨w.plan, w.bound, now, course⟩
      (w.ms + w.backends.length * w.plan.timeoutMs) w.ms).val = s)
    (hq : s.awaited = some q) (hdone : q.isDone = true)
    (hacc : q.Accounts ⟨w.plan, w.bound, now, course⟩ w.backends x s.exchange) :
    (w.probeAll course now x).val.1 = .ok q.results ∧
      (w.probeAll course now x).val.2.2.1 = s.watch ∧
      w.Exact course now x q.results (w.probeAll course now x).val.2.2.2 := by
  obtain ⟨hanswer, hafter⟩ := probeAll_of_timely hne ht course now x
  obtain ⟨os, hos, hresults, hperm⟩ := hacc.entered
  have hpending : q.pending ⟨w.plan, w.bound, now, course⟩ = [] := by
    rw [Round.isDone, Bool.and_eq_true, List.isEmpty_iff, List.isEmpty_iff] at hdone
    rw [Round.pending, hdone.1, hdone.2]
    rfl
  have hconclude : s.watch.conclude q = (.ok q.results, s.watch) := by
    rw [conclude, hacc.whole]
    rfl
  rw [hpending, List.append_nil] at hperm
  rw [hs, hq, Option.getD_some, hconclude] at hanswer hafter
  rw [hafter, hos]
  exact ⟨hanswer, rfl, exact_of_entered hn hu hperm hresults⟩

theorem uncancelled_own {s : ProbeSetting} (hu : (s.course id).Uncancelled) :
    (s.own id).2 ≠ .cancelled := by
  change ((s.course id).within s.plan.timeoutMs).2 ≠ _
  rw [ProbeCourse.verdict_of_uncancelled hu]
  split <;> simp

theorem exact_of_timely (hn : w.backends.Nodup)
    (halone : w.Alone (w.ms + w.backends.length * w.plan.timeoutMs))
    (hu : ∀ id ∈ w.backends, (course id).Uncancelled) (hne : w.backends ≠ [])
    (ht : w.plan.timely = true) (x : Exchange) :
    ∃ rs, (w.probeAll course now x).val.1 = .ok rs ∧
      w.Exact course now x rs (w.probeAll course now x).val.2.2.2 := by
  let s : ProbeSetting := ⟨w.plan, w.bound, now, course⟩
  obtain ⟨q, hq, hdone, hacc⟩ := Watched.passUntil_of_alone (s := s)
    (w := w.watched x (some (.of w.backends))) (fun id hid => uncancelled_own (hu id hid)) halone
    rfl (Round.accounts_of s w.backends x) (Round.timed_of s w.backends w.ms)
  obtain ⟨hanswer, -, hexact⟩ := exact_of_done hn hu hne ht rfl hq hdone hacc
  exact ⟨q.results, hanswer, hexact⟩

theorem probeAll_exact_or_overflow (w : Watch) (course : String → ProbeCourse) (now : Float) (x : Exchange)
    (hdistinct : w.backends.Nodup)
    (halone : w.Alone (w.ms + w.backends.length * w.plan.timeoutMs))
    (hu : ∀ id ∈ w.backends, (course id).Uncancelled) :
    let answer := (w.probeAll course now x).val.1
    let y := (w.probeAll course now x).val.2.2.2
    (w.backends = [] ∨ w.plan.timely = true → ∃ rs, answer = .ok rs ∧ w.Exact course now x rs y) ∧
    (w.backends ≠ [] → w.plan.timely = false → answer = .error (.overflow .operand) ∧ y = x) := by
  intro answer y
  refine ⟨fun hgood => ?_, fun hne hlate => probeAll_of_untimely hne hlate course now x⟩
  by_cases hnil : w.backends = []
  · obtain ⟨hanswer, hx⟩ := probeAll_of_nil hnil course now x
    refine ⟨[], hanswer, ?_⟩
    change w.Exact course now x [] (w.probeAll course now x).val.2.2.2
    rw [hx]
    have hnone : ([] : List (String × Verdict)).Perm
        (w.backends.map (ProbeSetting.own ⟨w.plan, w.bound, now, course⟩)) := by
      rw [hnil]
      exact .nil
    exact exact_of_entered hdistinct hu hnone .nil
  · exact exact_of_timely hdistinct halone hu hnil (hgood.resolve_left hnil) x

def pair : Watch := { start .standard true with backends := ["down", "up"] }

def pairCourse (id : String) : ProbeCourse :=
  if id = "down" then ⟨some 30, .raises "RuntimeError" "refused"⟩ else .atOnce (.answers true)

def bareExchange : Exchange := .start .standard (.start .traces none)

theorem probeAll_exact_of_pair : ∃ rs y, (pair.probeAll pairCourse 1.0 bareExchange).val.1 = .ok rs ∧
    pair.Exact pairCourse 1.0 bareExchange rs y ∧ ("down", true) ∉ rs := by
  have hdistinct : pair.backends.Nodup := by decide
  have halone : pair.Alone (pair.ms + pair.backends.length * pair.plan.timeoutMs) :=
    ⟨rfl, rfl, fun _ h => by cases h⟩
  have hu : ∀ id ∈ pair.backends, (pairCourse id).Uncancelled := by
    intro id _ message
    rw [pairCourse]
    split
    · simp
    · simp [ProbeCourse.atOnce]
  obtain ⟨rs, hanswer, hexact⟩ := (probeAll_exact_or_overflow pair pairCourse 1.0 bareExchange hdistinct halone
    hu).1 (.inr (by decide +kernel))
  refine ⟨rs, _, hanswer, hexact, fun hm => ?_⟩
  exact absurd (hexact.values _ hm) (by decide)

def boundless : Watch :=
  { start { ProbePlan.standard with
      timeoutMs := 10 ^ 400, timeout_pos := Nat.pow_pos (Nat.succ_pos 9) } true with
    backends := ["a"] }

theorem overflow_escapes_round :
    boundless.Alone (boundless.ms + boundless.backends.length * boundless.plan.timeoutMs) ∧
      (boundless.probeAll (fun _ => .atOnce (.answers true)) 1.0 bareExchange).val.1 =
        .error (.overflow .operand) := by
  have huntimely : boundless.plan.timely = false := by decide +kernel
  exact ⟨⟨rfl, rfl, fun _ h => by cases h⟩,
    (probeAll_of_untimely (List.cons_ne_nil _ _) huntimely _ _ _).1⟩

end Watch

end Switchboard
