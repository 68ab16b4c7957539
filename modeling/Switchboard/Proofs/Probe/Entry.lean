import Switchboard.Probe.Watch

namespace Switchboard

namespace Exchange

def entered (x : Exchange) (s : ProbeSetting) (outcomes : List (String × Verdict)) : Exchange :=
  outcomes.foldl (fun x o => (x.enter s.bound s.now o).val) x

theorem enterAll_val (x : Exchange) (s : ProbeSetting) (outcomes : List (String × Verdict)) :
    (x.enterAll s.bound s.now outcomes).val = x.entered s outcomes := by
  induction outcomes generalizing x with
  | nil => rfl
  | cons o outcomes ih => exact ih (x.enter s.bound s.now o).val

theorem entered_append (x : Exchange) (s : ProbeSetting) (os ps : List (String × Verdict)) :
    x.entered s (os ++ ps) = (x.entered s os).entered s ps :=
  List.foldl_append

theorem registry_enter (x : Exchange) (bound : Bool) (now : Float) (o : String × Verdict) :
    (x.enter bound now o).val.registry = x.registry := by
  obtain ⟨id, v⟩ := o
  cases v with
  | healthy => cases bound <;> rfl
  | unhealthy message => cases bound <;> rfl
  | cancelled => rfl

theorem ledger_enter (x : Exchange) (bound : Bool) (now : Float) (o : String × Verdict) :
    (x.enter bound now o).val.ledger = x.ledger := by
  obtain ⟨id, v⟩ := o
  cases v with
  | healthy => cases bound <;> rfl
  | unhealthy message => cases bound <;> rfl
  | cancelled => rfl

end Exchange

namespace Round

theorem length_launch_lt {s : ProbeSetting} {r : Round} (hq : r.queue ≠ []) (hf : 0 < r.free s)
    (ms : Nat) : (r.launch s ms).queue.length < r.queue.length := by
  have hpos := List.length_pos_iff.2 hq
  change (r.queue.drop (r.free s)).length < _
  rw [List.length_drop]
  omega

theorem settle_enters (s : ProbeSetting) (ms : Nat) (r : Round) (t : Trail) :
    ∃ r' t' outcomes, ∀ x, (r.settle s ms x t).val = (r', x.entered s outcomes, t') := by
  induction hn : r.queue.length using Nat.strongRecOn generalizing r t with
  | ind n ih =>
      subst hn
      by_cases h : (r.land ms).queue ≠ [] ∧ 0 < (r.land ms).free s
      · have hshort : ((r.land ms).launch s ms).queue.length < r.queue.length :=
          length_launch_lt h.1 h.2 ms
        obtain ⟨r', t', outcomes, hs⟩ := ih _ hshort ((r.land ms).launch s ms) _ rfl
        refine ⟨r', t', r.outcomesAt ms ++ outcomes, fun x => ?_⟩
        rw [settle]
        simp only [Logged.val_bind, dif_pos h, Exchange.enterAll_val, Exchange.entered_append]
        exact hs _
      · refine ⟨r.land ms, t.wake (r.sleepers - (r.land ms).sleepers), r.outcomesAt ms, fun x => ?_⟩
        rw [settle]
        simp only [Logged.val_bind, dif_neg h, Exchange.enterAll_val, Logged.val_pure]

end Round

namespace Watched

def on (w : Watched) (x : Exchange) : Watched := { w with exchange := x }

@[simp] theorem on_watch (w : Watched) (x : Exchange) : (w.on x).watch = w.watch := rfl

@[simp] theorem on_exchange (w : Watched) (x : Exchange) : (w.on x).exchange = x := rfl

@[simp] theorem on_awaited (w : Watched) (x : Exchange) : (w.on x).awaited = w.awaited := rfl

@[simp] theorem on_trail (w : Watched) (x : Exchange) : (w.on x).trail = w.trail := rfl

@[simp] theorem on_isOver (w : Watched) (x : Exchange) : (w.on x).isOver = w.isOver := rfl

@[simp] theorem on_next? (w : Watched) (x : Exchange) : (w.on x).next? = w.next? := rfl

/-- Of the exchange a step sees nothing, and all that it does with it is to enter verdicts. -/
def Enters (s : ProbeSetting) (f : Watched → Logged Watched) (w : Watched) : Prop :=
  ∃ outcomes, ∀ x, (f (w.on x)).val = (f w).val.on (x.entered s outcomes)

variable {s : ProbeSetting} {f g : Watched → Logged Watched} {w : Watched}

theorem enters_pure {h : Watched → Watched} (hh : ∀ x, h (w.on x) = (h w).on x) :
    Enters s (fun w => pure (h w)) w :=
  ⟨[], hh⟩

theorem Enters.bind (hf : Enters s f w) (hg : ∀ w, Enters s g w) :
    Enters s (fun w => f w >>= g) w := by
  obtain ⟨os, hf⟩ := hf
  obtain ⟨ps, hg⟩ := hg (f w).val
  refine ⟨os ++ ps, fun x => ?_⟩
  rw [Logged.val_bind, Logged.val_bind, hf, hg, Exchange.entered_append]

theorem Enters.congr (hg : Enters s g w) (h : ∀ x, f (w.on x) = g (w.on x)) : Enters s f w := by
  obtain ⟨os, hg⟩ := hg
  have hw : f w = g w := h w.exchange
  refine ⟨os, fun x => ?_⟩
  rw [h, hw, hg]

theorem enters_foldlM {α : Type} {f : Watched → α → Logged Watched}
    (h : ∀ a w, Enters s (f · a) w) (as : List α) (w : Watched) :
    Enters s (fun w => as.foldlM f w) w := by
  induction as generalizing w with
  | nil => exact enters_pure fun _ => rfl
  | cons a as ih => exact (h a w).bind ih

theorem enters_settle {r : Round} {k : Round → Watched → Watched}
    (hk : ∀ r w x, k r (w.on x) = (k r w).on x) :
    Enters s (fun w => w.settle s r >>= fun a => pure (k a.1 a.2)) w := by
  obtain ⟨r', t', outcomes, h⟩ := r.settle_enters s w.watch.ms w.trail
  refine ⟨outcomes, fun x => ?_⟩
  simp only [settle, Logged.val_bind, Logged.val_pure, on_watch, on_exchange, on_trail, h]
  change k r' ({ w with trail := t' }.on _) = (k r' ({ w with trail := t' }.on _)).on _
  rw [hk, hk]
  rfl

theorem settleStray_enters (s : ProbeSetting) (r : Round) (w : Watched) :
    Enters s (settleStray s · r) w := by
  refine enters_settle (k := fun r w => if r.isDone then w
    else { w with watch := { w.watch with strays := w.watch.strays ++ [r] } }) fun r w x => ?_
  split <;> rfl

theorem proceed_enters (s : ProbeSetting) (r : Round) (w : Watched) :
    Enters s (proceed s · r) w := by
  refine enters_settle (k := fun r w => if r.broken then
      { w with watch := { w.watch with task := .ended, strays := w.watch.strays ++ strays r } }
    else if r.isDone then w.rest
    else { w with watch := { w.watch with task := .probing r } }) fun r w x => ?_
  dsimp only
  split
  · rfl
  · split <;> rfl

theorem runTask_enters (s : ProbeSetting) (w : Watched) : Enters s (runTask s) w := by
  cases ht : w.watch.task with
  | none => exact (enters_pure (h := id) fun _ => rfl).congr fun x => by simp [runTask, ht]
  | ended => exact (enters_pure (h := id) fun _ => rfl).congr fun x => by simp [runTask, ht]
  | probing r => exact (proceed_enters s r w).congr fun x => by simp [runTask, ht]
  | resting wake =>
      by_cases hearly : w.watch.ms < wake
      · exact (enters_pure (h := id) fun _ => rfl).congr fun x => by simp [runTask, ht, hearly]
      by_cases hidle : w.watch.backends.isEmpty
      · exact (enters_pure (h := rest) fun _ => rfl).congr fun x => by
          simp [runTask, ht, hearly, hidle]
      by_cases htimely : s.plan.timely
      · exact (proceed_enters s (.of w.watch.backends) w).congr fun x => by
          simp [runTask, ht, hearly, hidle, htimely]
      · exact (enters_pure
          (h := fun w => { w with watch := { w.watch with task := .ended } }) fun _ => rfl).congr
          fun x => by simp [runTask, ht, hearly, hidle, htimely]

theorem runAwaited_enters (s : ProbeSetting) (w : Watched) : Enters s (runAwaited s) w := by
  cases ha : w.awaited with
  | none => exact (enters_pure (h := id) fun _ => rfl).congr fun x => by simp [runAwaited, ha]
  | some r =>
      refine (enters_settle (r := r) (k := fun r w => { w with awaited := some r })
        fun _ _ _ => rfl).congr fun x => ?_
      simp only [runAwaited, on_awaited, ha]

theorem land_enters (s : ProbeSetting) (w : Watched) : Enters s (land s) w := by
  refine ⟨w.due.map Flight.outcome, fun x => ?_⟩
  simp only [land, Logged.val_bind, Logged.val_pure, Exchange.enterAll_val]
  rfl

theorem instant_enters (s : ProbeSetting) (w : Watched) : Enters s (instant s) w := by
  have hstrays (w : Watched) : Enters s (fun w => w.watch.strays.foldlM (settleStray s)
      { w with watch := { w.watch with strays := [] } }) w :=
    enters_foldlM (settleStray_enters s) w.watch.strays
      { w with watch := { w.watch with strays := [] } }
  refine (land_enters s w).bind fun w => ?_
  refine (hstrays w).bind fun w => ?_
  exact (runAwaited_enters s w).bind (runTask_enters s)

def onwards (s : ProbeSetting) (limit now : Nat) (w : Watched) : Logged Watched :=
  if w.isOver then pure w
  else
    match w.next? with
    | some t =>
        if now < t ∧ t ≤ limit then w.passUntil s limit t else pure (w.moveTo (max now limit))
    | none => pure (w.moveTo (max now limit))

theorem passUntil_eq (s : ProbeSetting) (limit now : Nat) (w : Watched) :
    w.passUntil s limit now = (w.moveTo now).instant s >>= onwards s limit now :=
  passUntil.eq_def s limit now w

theorem passUntil_enters (s : ProbeSetting) (limit now : Nat) (w : Watched) :
    Enters s (passUntil s limit now) w := by
  induction hn : limit - now using Nat.strongRecOn generalizing now w with
  | ind n ih =>
      subst hn
      have hmove : Enters s (fun w => (w.moveTo now).instant s) w := instant_enters s (w.moveTo now)
      have hnext (w : Watched) : Enters s (onwards s limit now) w := by
        by_cases hover : w.isOver
        · exact (enters_pure (h := id) fun _ => rfl).congr fun x => by simp [onwards, hover]
        cases hnext : w.next? with
        | none =>
            exact (enters_pure (h := (·.moveTo (max now limit))) fun _ => rfl).congr fun x => by
              simp [onwards, hover, hnext]
        | some t =>
            by_cases ht : now < t ∧ t ≤ limit
            · exact (ih (limit - t) (by omega) t w rfl).congr fun x => by
                simp [onwards, hover, hnext, ht]
            · exact (enters_pure (h := (·.moveTo (max now limit))) fun _ => rfl).congr fun x => by
                simp [onwards, hover, hnext, ht]
      exact (hmove.bind hnext).congr fun x => passUntil_eq s limit now (w.on x)

end Watched

namespace Watch

@[simp] theorem watched_watch (w : Watch) (x : Exchange) (awaited : Option Round) :
    (w.watched x awaited).watch = w := rfl

theorem watched_eq_on (w : Watch) (x y : Exchange) (awaited : Option Round) :
    w.watched x awaited = (w.watched y awaited).on x := rfl

theorem pass_enters (w : Watch) (course : String → ProbeCourse) (now : Float) (ms : Nat)
    (y : Exchange) :
    ∃ outcomes, ∀ x, (w.pass course now x ms).val =
      ((w.pass course now y ms).val.1, (w.pass course now y ms).val.2.1,
        x.entered ⟨w.plan, w.bound, now, course⟩ outcomes) := by
  obtain ⟨outcomes, h⟩ := Watched.passUntil_enters ⟨w.plan, w.bound, now, course⟩ (w.ms + ms) w.ms
    (w.watched y none)
  refine ⟨outcomes, fun x => ?_⟩
  simp only [pass, Watched.setting, watched_watch, Logged.val_bind, Logged.val_pure]
  rw [w.watched_eq_on x y, h]
  rfl

theorem probeAll_enters (w : Watch) (course : String → ProbeCourse) (now : Float) (y : Exchange) :
    ∃ outcomes, ∀ x, (w.probeAll course now x).val =
      ((w.probeAll course now y).val.1, (w.probeAll course now y).val.2.1,
        (w.probeAll course now y).val.2.2.1,
        x.entered ⟨w.plan, w.bound, now, course⟩ outcomes) := by
  by_cases hidle : w.backends.isEmpty
  · refine ⟨[], fun x => ?_⟩
    simp only [probeAll, if_pos hidle]
    rfl
  by_cases htimely : w.plan.timely
  · obtain ⟨outcomes, h⟩ := Watched.passUntil_enters ⟨w.plan, w.bound, now, course⟩
      (w.ms + (Round.of w.backends).horizon w.plan) w.ms (w.watched y (some (.of w.backends)))
    refine ⟨outcomes, fun x => ?_⟩
    simp only [probeAll, if_neg hidle, if_pos htimely, Watched.setting, watched_watch,
      Logged.val_bind, Logged.val_pure]
    rw [w.watched_eq_on x y, h]
    rfl
  · refine ⟨[], fun x => ?_⟩
    simp only [probeAll, if_neg hidle, if_neg htimely]
    rfl

end Watch

end Switchboard
