import Switchboard.Probe.Verdict

namespace Switchboard

/-- A probe under way. `cutShort` says that the time limit ends it. -/
structure Flight where
  backend : String
  beganAt : Nat
  endsAt : Nat
  verdict : Verdict
  sleeping : Bool
  cutShort : Bool

/-- One pass over a set of backends. `broken` says that a probe was cancelled: nobody waits for the
round any more, but the probes under way go on. -/
structure Round where
  queue : List String
  flights : List Flight
  results : List (String × Bool)
  broken : Bool

structure Trail where
  starts : List Nat
  asleep : Nat
  peak : Nat

structure ProbeSetting where
  plan : ProbePlan
  bound : Bool
  now : Float
  course : String → ProbeCourse

namespace Flight

def outcome (f : Flight) : String × Verdict := (f.backend, f.verdict)

/-- Of probes that end at the same time those go first that ended by themselves, and then those
that began first. -/
def before (f g : Flight) : Bool :=
  if f.cutShort = g.cutShort then f.beganAt ≤ g.beganAt else g.cutShort

end Flight

namespace Trail

def wake (t : Trail) (sleepers : Nat) : Trail := { t with asleep := t.asleep - sleepers }

def begin (t : Trail) (ms started sleepers : Nat) : Trail :=
  ⟨t.starts ++ List.replicate started ms, t.asleep + sleepers, max t.peak (t.asleep + sleepers)⟩

end Trail

namespace Round

def of (backends : List String) : Round := ⟨backends, [], [], false⟩

def isDone (r : Round) : Bool := r.queue.isEmpty && r.flights.isEmpty

def sleepers (r : Round) : Nat := r.flights.countP Flight.sleeping

def passed (outcomes : List (String × Verdict)) : List (String × Bool) :=
  outcomes.filterMap fun o => match o.2 with
    | .healthy => some (o.1, true)
    | .unhealthy _ => some (o.1, false)
    | .cancelled => none

def dueAt (r : Round) (ms : Nat) : List Flight := r.flights.filter (fun f => f.endsAt ≤ ms)

def outcomesAt (r : Round) (ms : Nat) : List (String × Verdict) := (r.dueAt ms).map Flight.outcome

def land (r : Round) (ms : Nat) : Round :=
  let outcomes := r.outcomesAt ms
  { r with
    flights := r.flights.filter (fun f => ms < f.endsAt)
    results := r.results ++ passed outcomes
    broken := r.broken || outcomes.any (fun o => o.2 = .cancelled) }

def takeOff (s : ProbeSetting) (ms : Nat) (backend : String) : Flight :=
  let course := s.course backend
  let (lasts, verdict) := course.within s.plan.timeoutMs
  ⟨backend, ms, ms + lasts, verdict, course.delayMs.isSome,
    course.delayMs.any (fun d => s.plan.timeoutMs ≤ d)⟩

def free (r : Round) (s : ProbeSetting) : Nat := s.plan.concurrency - r.flights.length

def launch (r : Round) (s : ProbeSetting) (ms : Nat) : Round :=
  { r with
    queue := r.queue.drop (r.free s)
    flights := r.flights ++ (r.queue.take (r.free s)).map (takeOff s ms) }

def settle (s : ProbeSetting) (ms : Nat) (r : Round) (x : Exchange) (t : Trail) :
    Logged (Round × Exchange × Trail) := do
  let x ← x.enterAll s.bound s.now (r.outcomesAt ms)
  let landed := r.land ms
  let t := t.wake (r.sleepers - landed.sleepers)
  if _h : landed.queue ≠ [] ∧ 0 < landed.free s then
    let next := landed.launch s ms
    let started := landed.queue.length - next.queue.length
    settle s ms next x (t.begin ms started (next.sleepers - landed.sleepers))
  else pure (landed, x, t)
termination_by r.queue.length
decreasing_by
  have hq : 0 < r.queue.length := List.length_pos_iff.2 _h.1
  have hl : (landed.launch s ms).queue = r.queue.drop (landed.free s) := rfl
  rw [hl, List.length_drop]
  have := _h.2
  omega

def nextEnd? (r : Round) : Option Nat := (r.flights.map Flight.endsAt).min?

def horizon (r : Round) (plan : ProbePlan) : Nat :=
  (r.queue.length + r.flights.length) * plan.timeoutMs

end Round

end Switchboard
