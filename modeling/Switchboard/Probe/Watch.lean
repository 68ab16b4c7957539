import Switchboard.Probe.Round

namespace Switchboard

inductive WatchTask where
  | none
  | ended
  | resting (wakeMs : Nat)
  | probing (round : Round)

/-- The backends that are probed, the periodic task, and rounds that nobody waits for. Its time in
milliseconds passes only while probes are awaited. -/
structure Watch where
  plan : ProbePlan
  bound : Bool
  backends : List String
  task : WatchTask
  strays : List Round
  ms : Nat

structure Watched where
  watch : Watch
  exchange : Exchange
  awaited : Option Round
  trail : Trail

namespace Watch

def start (plan : ProbePlan) (bound : Bool) : Watch := ⟨plan, bound, [], .none, [], 0⟩

def running (w : Watch) : Bool :=
  match w.task with
  | .resting _ | .probing _ => true
  | _ => false

def add (w : Watch) (id : String) : Watch :=
  if w.backends.contains id then w else { w with backends := w.backends ++ [id] }

def remove (w : Watch) (id : String) : Watch :=
  { w with backends := w.backends.filter (fun b => b ≠ id) }

def listed (w : Watch) : List String := w.backends.mergeSort (fun a b => decide (a ≤ b))

def begin (w : Watch) : Logged Watch :=
  if w.running then pure w
  else
    let task := if w.plan.regular then .resting (w.ms + w.plan.intervalMs) else .ended
    ⟨{ w with task := task }, [.probeStarted w.backends.length w.plan.intervalMs]⟩

def stop (w : Watch) : Logged Watch :=
  match w.task with
  | .none => pure w
  | _ => ⟨{ w with task := .none }, [.probeStopped]⟩

def taskRound : WatchTask → Option Round
  | .probing r => some r
  | _ => none

def sleepers (w : Watch) : Nat :=
  (w.strays ++ (taskRound w.task).toList).foldr (fun r n => r.sleepers + n) 0

def wake? : WatchTask → Option Nat
  | .resting ms => some ms
  | _ => none

end Watch

namespace Watched

def setting (s : String → ProbeCourse) (now : Float) (w : Watched) : ProbeSetting :=
  ⟨w.watch.plan, w.watch.bound, now, s⟩

def settle (s : ProbeSetting) (w : Watched) (r : Round) : Logged (Round × Watched) := do
  let (r, x, t) ← r.settle s w.watch.ms w.exchange w.trail
  pure (r, { w with exchange := x, trail := t })

def settleStray (s : ProbeSetting) (w : Watched) (r : Round) : Logged Watched := do
  let (r, w) ← w.settle s r
  pure (if r.isDone then w
    else { w with watch := { w.watch with strays := w.watch.strays ++ [r] } })

def strays (r : Round) : List Round := if r.isDone then [] else [r]

def rest (w : Watched) : Watched :=
  { w with watch := { w.watch with task := .resting (w.watch.ms + w.watch.plan.intervalMs) } }

def proceed (s : ProbeSetting) (w : Watched) (r : Round) : Logged Watched := do
  let (r, w) ← w.settle s r
  pure (if r.broken then
      { w with watch := { w.watch with task := .ended, strays := w.watch.strays ++ strays r } }
    else if r.isDone then w.rest
    else { w with watch := { w.watch with task := .probing r } })

def runTask (s : ProbeSetting) (w : Watched) : Logged Watched :=
  match w.watch.task with
  | .probing r => w.proceed s r
  | .resting wake =>
      if w.watch.ms < wake then pure w
      else if w.watch.backends.isEmpty then pure w.rest
      else if s.plan.timely then w.proceed s (.of w.watch.backends)
      else pure { w with watch := { w.watch with task := .ended } }
  | _ => pure w

def runAwaited (s : ProbeSetting) (w : Watched) : Logged Watched :=
  match w.awaited with
  | none => pure w
  | some r => do
      let (r, w) ← w.settle s r
      pure { w with awaited := some r }

def rounds (w : Watched) : List Round :=
  w.watch.strays ++ (Watch.taskRound w.watch.task).toList ++ w.awaited.toList

def due (w : Watched) : List Flight :=
  (w.rounds.flatMap (fun r => r.dueAt w.watch.ms)).mergeSort Flight.before

def landRound (ms : Nat) : WatchTask → WatchTask
  | .probing r => .probing (r.land ms)
  | t => t

def land (s : ProbeSetting) (w : Watched) : Logged Watched := do
  let due := w.due
  let x ← w.exchange.enterAll s.bound s.now (due.map Flight.outcome)
  let ms := w.watch.ms
  pure {
    watch := { w.watch with
      task := landRound ms w.watch.task
      strays := w.watch.strays.map (fun r => r.land ms) }
    exchange := x
    awaited := w.awaited.map (fun r => r.land ms)
    trail := w.trail.wake (due.countP Flight.sleeping) }

def instant (s : ProbeSetting) (w : Watched) : Logged Watched := do
  let w ← w.land s
  let w ← w.watch.strays.foldlM (settleStray s)
    { w with watch := { w.watch with strays := [] } }
  let w ← w.runAwaited s
  w.runTask s

def isOver (w : Watched) : Bool :=
  match w.awaited with
  | some r => r.broken || r.isDone
  | none => false

def next? (w : Watched) : Option Nat :=
  ((w.awaited.toList ++ w.watch.strays ++ (Watch.taskRound w.watch.task).toList).filterMap
    Round.nextEnd? ++ (Watch.wake? w.watch.task).toList).min?

def moveTo (w : Watched) (ms : Nat) : Watched := { w with watch := { w.watch with ms := ms } }

def passUntil (s : ProbeSetting) (limit now : Nat) (w : Watched) : Logged Watched := do
  let w ← (w.moveTo now).instant s
  if w.isOver then pure w
  else
    match w.next? with
    | some t =>
        if _h : now < t ∧ t ≤ limit then w.passUntil s limit t else pure (w.moveTo (max now limit))
    | none => pure (w.moveTo (max now limit))
termination_by limit - now
decreasing_by omega

end Watched

structure WatchReport where
  elapsedMs : Nat
  starts : List (Nat × Nat)
  peak : Nat

namespace WatchReport

def countStart (t : Nat) : List (Nat × Nat) → List (Nat × Nat)
  | [] => [(t, 1)]
  | (u, n) :: rest => if u = t then (u, n + 1) :: rest else (u, n) :: countStart t rest

def of (began : Nat) (w : Watched) : WatchReport :=
  ⟨w.watch.ms - began, w.trail.starts.foldl (fun l t => countStart (t - began) l) [], w.trail.peak⟩

end WatchReport

namespace Watch

def watched (w : Watch) (x : Exchange) (awaited : Option Round) : Watched :=
  ⟨w, x, awaited, ⟨[], w.sleepers, w.sleepers⟩⟩

def pass (w : Watch) (course : String → ProbeCourse) (now : Float) (x : Exchange) (ms : Nat) :
    Logged (WatchReport × Watch × Exchange) := do
  let s := w.watched x none
  let s ← s.passUntil (s.setting course now) (w.ms + ms) w.ms
  pure (.of w.ms s, s.watch, s.exchange)

def conclude (w : Watch) (r : Round) : Except Fault (List (String × Bool)) × Watch :=
  if r.broken then (.error .cancelled, { w with strays := w.strays ++ Watched.strays r })
  else (.ok r.results, w)

def probeAll (w : Watch) (course : String → ProbeCourse) (now : Float) (x : Exchange) :
    Logged (Except Fault (List (String × Bool)) × WatchReport × Watch × Exchange) := do
  let round := Round.of w.backends
  let s := w.watched x (some round)
  if w.backends.isEmpty then pure (.ok [], .of w.ms s, w, x)
  else if w.plan.timely then do
    let s ← s.passUntil (s.setting course now) (w.ms + round.horizon w.plan) w.ms
    let (answer, watch) := s.watch.conclude (s.awaited.getD round)
    pure (answer, .of w.ms s, watch, s.exchange)
  else pure (.error (.overflow .operand), .of w.ms s, w, x)

end Watch

end Switchboard
