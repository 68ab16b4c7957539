import Switchboard.Proofs.Probe.Entry

namespace Switchboard

variable {P : Exchange → Prop} {V : Verdict → Prop} {s : ProbeSetting}

structure ProbeSetting.Keeps (s : ProbeSetting) (P : Exchange → Prop) (V : Verdict → Prop) :
    Prop where
  course : ∀ id, V ((s.course id).within s.plan.timeoutMs).2
  enter : ∀ x o, P x → V o.2 → P (x.enter s.bound s.now o).val

theorem ProbeSetting.Keeps.entered (hk : s.Keeps P V) {x : Exchange} (hx : P x)
    {outcomes : List (String × Verdict)} (ho : ∀ o ∈ outcomes, V o.2) :
    P (x.entered s outcomes) := by
  induction outcomes generalizing x with
  | nil => exact hx
  | cons o outcomes ih =>
      rw [List.forall_mem_cons] at ho
      exact ih (hk.enter x o hx ho.1) ho.2

namespace Round

def Gives (V : Verdict → Prop) (r : Round) : Prop := ∀ f ∈ r.flights, V f.verdict

variable {r : Round}

theorem gives_of (V : Verdict → Prop) (backends : List String) : (of backends).Gives V :=
  fun _ hf => absurd hf List.not_mem_nil

theorem Gives.getD (h : r.Gives V) {o : Option Round} (ho : ∀ q, o = some q → q.Gives V) :
    (o.getD r).Gives V := by
  cases o with
  | none => exact h
  | some q => exact ho q rfl

theorem Gives.land (h : r.Gives V) (ms : Nat) : (r.land ms).Gives V :=
  fun f hf => h f ((List.mem_filter.1 hf).1)

theorem Gives.dueAt (h : r.Gives V) (ms : Nat) : ∀ f ∈ r.dueAt ms, V f.verdict :=
  fun f hf => h f ((List.mem_filter.1 hf).1)

theorem Gives.launch (h : r.Gives V) (hk : s.Keeps P V) (ms : Nat) : (r.launch s ms).Gives V := by
  intro f hf
  rcases List.mem_append.1 hf with hf | hf
  · exact h f hf
  · obtain ⟨id, -, rfl⟩ := List.mem_map.1 hf
    exact hk.course id

theorem outcomes_give {fs : List Flight} (h : ∀ f ∈ fs, V f.verdict) :
    ∀ o ∈ fs.map Flight.outcome, V o.2 := by
  intro o ho
  obtain ⟨f, hf, rfl⟩ := List.mem_map.1 ho
  exact h f hf

theorem Gives.settle (hk : s.Keeps P V) (h : r.Gives V) {x : Exchange} (hx : P x) (ms : Nat)
    (t : Trail) :
    (r.settle s ms x t).val.1.Gives V ∧ P (r.settle s ms x t).val.2.1 := by
  induction hn : r.queue.length using Nat.strongRecOn generalizing r x t with
  | ind n ih =>
      subst hn
      have hx' := hk.entered hx (outcomes_give (h.dueAt ms))
      rw [Round.settle]
      simp only [Logged.val_bind, Exchange.enterAll_val]
      split
      · next hq =>
          have hshort : ((r.land ms).launch s ms).queue.length < r.queue.length :=
            length_launch_lt hq.1 hq.2 ms
          exact ih _ hshort ((h.land ms).launch hk ms) hx' _ rfl
      · exact ⟨h.land ms, hx'⟩

end Round

structure Watch.Gives (V : Verdict → Prop) (w : Watch) : Prop where
  strays : ∀ r ∈ w.strays, r.Gives V
  task : ∀ r, w.task = .probing r → r.Gives V

namespace Watched

structure Keeps (s : ProbeSetting) (P : Exchange → Prop) (V : Verdict → Prop) (w : Watched) :
    Prop where
  exchange : P w.exchange
  bound : w.watch.bound = s.bound
  watch : w.watch.Gives V
  awaited : ∀ r, w.awaited = some r → r.Gives V

variable {w : Watched} {r : Round}

theorem strays_give (h : r.Gives V) : ∀ q ∈ strays r, q.Gives V := by
  rw [strays]
  split
  · exact List.forall_mem_nil _
  · exact List.forall_mem_singleton.2 h

theorem Keeps.rounds (h : w.Keeps s P V) : ∀ r ∈ w.rounds, r.Gives V := by
  intro r hr
  rcases List.mem_append.1 hr with hr | hr
  · rcases List.mem_append.1 hr with hr | hr
    · exact h.watch.strays r hr
    · cases ht : w.watch.task with
      | probing q =>
          rw [ht] at hr
          exact List.mem_singleton.1 hr ▸ h.watch.task q ht
      | _ =>
          rw [ht] at hr
          exact absurd hr List.not_mem_nil
  · exact h.awaited r (Option.mem_toList.1 hr)

theorem Keeps.due (h : w.Keeps s P V) : ∀ f ∈ w.due, V f.verdict := by
  intro f hf
  obtain ⟨r, hr, hf⟩ := List.mem_flatMap.1 (List.mem_mergeSort.1 hf)
  exact (h.rounds r hr).dueAt w.watch.ms f hf

theorem Keeps.settle (hk : s.Keeps P V) (h : w.Keeps s P V) (hr : r.Gives V) :
    (w.settle s r).val.1.Gives V ∧ (w.settle s r).val.2.Keeps s P V := by
  obtain ⟨hg, hp⟩ := hr.settle hk h.exchange w.watch.ms w.trail
  exact ⟨hg, hp, h.bound, h.watch, h.awaited⟩

theorem Keeps.settleStray (hk : s.Keeps P V) (h : w.Keeps s P V) (hr : r.Gives V) :
    (w.settleStray s r).val.Keeps s P V := by
  obtain ⟨hg, hw⟩ := h.settle hk hr
  rw [Watched.settleStray]
  simp only [Logged.val_bind, Logged.val_pure]
  split
  · exact hw
  · refine ⟨hw.exchange, hw.bound, ⟨?_, hw.watch.task⟩, hw.awaited⟩
    exact List.forall_mem_append.2 ⟨hw.watch.strays, List.forall_mem_singleton.2 hg⟩

theorem Keeps.rest (h : w.Keeps s P V) : w.rest.Keeps s P V :=
  ⟨h.exchange, h.bound, ⟨h.watch.strays, fun _ ht => by cases ht⟩, h.awaited⟩

theorem Keeps.proceed (hk : s.Keeps P V) (h : w.Keeps s P V) (hr : r.Gives V) :
    (w.proceed s r).val.Keeps s P V := by
  obtain ⟨hg, hw⟩ := h.settle hk hr
  rw [Watched.proceed]
  simp only [Logged.val_bind, Logged.val_pure]
  split
  · refine ⟨hw.exchange, hw.bound, ⟨?_, fun _ ht => by cases ht⟩, hw.awaited⟩
    exact List.forall_mem_append.2 ⟨hw.watch.strays, strays_give hg⟩
  · split
    · exact hw.rest
    · refine ⟨hw.exchange, hw.bound, ⟨hw.watch.strays, ?_⟩, hw.awaited⟩
      intro q hq
      cases hq
      exact hg

theorem Keeps.runTask (hk : s.Keeps P V) (h : w.Keeps s P V) : (w.runTask s).val.Keeps s P V := by
  cases ht : w.watch.task with
  | none =>
      simp only [Watched.runTask, ht]
      exact h
  | ended =>
      simp only [Watched.runTask, ht]
      exact h
  | probing r =>
      simp only [Watched.runTask, ht]
      exact h.proceed hk (h.watch.task r ht)
  | resting wake =>
      simp only [Watched.runTask, ht]
      split
      · exact h
      · split
        · exact h.rest
        · split
          · exact h.proceed hk (Round.gives_of V w.watch.backends)
          · exact ⟨h.exchange, h.bound, ⟨h.watch.strays, fun _ ht => by cases ht⟩, h.awaited⟩

theorem Keeps.runAwaited (hk : s.Keeps P V) (h : w.Keeps s P V) :
    (w.runAwaited s).val.Keeps s P V := by
  rw [Watched.runAwaited]
  cases ha : w.awaited with
  | none => exact h
  | some r =>
      obtain ⟨hg, hw⟩ := h.settle hk (h.awaited r ha)
      refine ⟨hw.exchange, hw.bound, hw.watch, ?_⟩
      intro q hq
      cases hq
      exact hg

theorem Keeps.land (hk : s.Keeps P V) (h : w.Keeps s P V) : (w.land s).val.Keeps s P V := by
  rw [Watched.land]
  simp only [Logged.val_bind, Logged.val_pure, Exchange.enterAll_val]
  refine ⟨hk.entered h.exchange (Round.outcomes_give h.due), h.bound, ⟨?_, ?_⟩, ?_⟩
  · intro q hq
    obtain ⟨r, hr, rfl⟩ := List.mem_map.1 hq
    exact (h.watch.strays r hr).land w.watch.ms
  · intro q hq
    cases ht : w.watch.task with
    | probing r =>
        simp only [ht, landRound] at hq
        cases hq
        exact (h.watch.task r ht).land w.watch.ms
    | _ =>
        simp only [ht, landRound] at hq
        cases hq
  · intro q hq
    obtain ⟨r, hr, rfl⟩ := Option.map_eq_some_iff.1 hq
    exact (h.awaited r hr).land w.watch.ms

theorem Keeps.settleStrays (hk : s.Keeps P V) (h : w.Keeps s P V) {rs : List Round}
    (hr : ∀ r ∈ rs, r.Gives V) : (rs.foldlM (Watched.settleStray s) w).val.Keeps s P V := by
  induction rs generalizing w with
  | nil => exact h
  | cons r rs ih =>
      rw [List.forall_mem_cons] at hr
      exact ih (h.settleStray hk hr.1) hr.2

theorem Keeps.instant (hk : s.Keeps P V) (h : w.Keeps s P V) : (w.instant s).val.Keeps s P V := by
  have hl := h.land hk
  have hcleared : Watched.Keeps s P V
      { (w.land s).val with watch := { (w.land s).val.watch with strays := [] } } :=
    ⟨hl.exchange, hl.bound, ⟨fun _ hr => absurd hr List.not_mem_nil, hl.watch.task⟩, hl.awaited⟩
  exact ((hcleared.settleStrays hk hl.watch.strays).runAwaited hk).runTask hk

theorem Keeps.moveTo (h : w.Keeps s P V) (ms : Nat) : (w.moveTo ms).Keeps s P V :=
  ⟨h.exchange, h.bound, ⟨h.watch.strays, h.watch.task⟩, h.awaited⟩

theorem Keeps.passUntil (hk : s.Keeps P V) (limit now : Nat) (h : w.Keeps s P V) :
    (w.passUntil s limit now).val.Keeps s P V := by
  induction hn : limit - now using Nat.strongRecOn generalizing now w with
  | ind n ih =>
      subst hn
      have hi := (h.moveTo now).instant hk
      rw [Watched.passUntil]
      simp only [Logged.val_bind]
      split
      · exact hi
      · split
        · next t _ =>
            split
            · next ht => exact ih (limit - t) (by omega) t hi rfl
            · exact hi.moveTo _
        · exact hi.moveTo _

end Watched

namespace Watch

variable {w : Watch} {x : Exchange}

theorem gives_everything (w : Watch) : w.Gives fun _ => True where
  strays _ _ _ _ := trivial
  task _ _ _ _ := trivial

theorem Gives.add (hg : w.Gives V) (id : String) :
    (w.add id).Gives V ∧ (w.add id).bound = w.bound := by
  rw [Watch.add]
  split
  · exact ⟨hg, rfl⟩
  · exact ⟨⟨hg.strays, hg.task⟩, rfl⟩

theorem Gives.begin (hg : w.Gives V) : w.begin.val.Gives V ∧ w.begin.val.bound = w.bound := by
  rw [Watch.begin]
  split
  · exact ⟨hg, rfl⟩
  · refine ⟨⟨hg.strays, ?_⟩, rfl⟩
    intro r ht
    dsimp only at ht
    split at ht <;> cases ht

theorem Gives.stop (hg : w.Gives V) : w.stop.val.Gives V ∧ w.stop.val.bound = w.bound := by
  rw [Watch.stop]
  split
  · exact ⟨hg, rfl⟩
  · exact ⟨⟨hg.strays, fun _ ht => by cases ht⟩, rfl⟩

theorem Gives.pass (hg : w.Gives V) (course : String → ProbeCourse) (now : Float)
    (hk : ProbeSetting.Keeps ⟨w.plan, w.bound, now, course⟩ P V) (hx : P x) (ms : Nat) :
    (w.pass course now x ms).val.2.1.Gives V ∧
      (w.pass course now x ms).val.2.1.bound = w.bound ∧ P (w.pass course now x ms).val.2.2 := by
  have hw : (w.watched x none).Keeps ⟨w.plan, w.bound, now, course⟩ P V :=
    ⟨hx, rfl, hg, fun _ hr => by cases hr⟩
  have hp := hw.passUntil hk (w.ms + ms) w.ms
  exact ⟨hp.watch, hp.bound, hp.exchange⟩

theorem Gives.conclude (hg : w.Gives V) {r : Round} (hr : r.Gives V) :
    (w.conclude r).2.Gives V ∧ (w.conclude r).2.bound = w.bound := by
  rw [Watch.conclude]
  split
  · exact ⟨⟨List.forall_mem_append.2 ⟨hg.strays, Watched.strays_give hr⟩, hg.task⟩, rfl⟩
  · exact ⟨hg, rfl⟩

theorem Gives.probeAll (hg : w.Gives V) (course : String → ProbeCourse) (now : Float)
    (hk : ProbeSetting.Keeps ⟨w.plan, w.bound, now, course⟩ P V) (hx : P x) :
    (w.probeAll course now x).val.2.2.1.Gives V ∧
      (w.probeAll course now x).val.2.2.1.bound = w.bound ∧
      P (w.probeAll course now x).val.2.2.2 := by
  have hround := Round.gives_of V w.backends
  have hw : (w.watched x (some (.of w.backends))).Keeps ⟨w.plan, w.bound, now, course⟩ P V :=
    ⟨hx, rfl, hg, fun _ hr => by cases hr; exact hround⟩
  have hp := hw.passUntil hk (w.ms + (Round.of w.backends).horizon w.plan) w.ms
  rw [Watch.probeAll]
  dsimp only
  split
  · exact ⟨hg, rfl, hx⟩
  · split
    · obtain ⟨hc, hb⟩ := hp.watch.conclude (hround.getD hp.awaited)
      exact ⟨hc, hb.trans hp.bound, hp.exchange⟩
    · exact ⟨hg, rfl, hx⟩

end Watch

end Switchboard
