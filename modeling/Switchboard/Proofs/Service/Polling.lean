import Switchboard.Proofs.Service.Alike

namespace Switchboard.Service

namespace Endpoint

def looks : Endpoint → Bool
  | .health | .serversHealth | .circuit _ | .discover | .agent _ | .traces | .trace _ | .metrics =>
      true
  | .probe | .resetCircuit _ | .call | .createAgent | .revoke _ => false

theorem mem_of_mem_named {name : String} {o : Method × Endpoint} {os : List (Method × Endpoint)}
    (h : o ∈ named name os) : o ∈ os := by
  unfold named at h
  split at h
  · cases h
  · exact h

theorem looks_of_offers {path : List String} {e : Endpoint} (h : (.get, e) ∈ offers path) :
    e.looks = true := by
  unfold offers at h
  split at h
  all_goals
    try replace h := mem_of_mem_named h
    simp at h
  all_goals
    subst h
    rfl

theorem looks_of_locateAt {path : List String} {e : Endpoint}
    (h : locateAt .get path = .found e) : e.looks = true := by
  have hpath : ∃ p, offersAt path = offers p := by
    unfold offersAt
    split
    · exact ⟨_, rfl⟩
    · exact ⟨path, rfl⟩
  obtain ⟨p, hp⟩ := hpath
  unfold locateAt at h
  rw [hp] at h
  split at h
  · cases h
  · split at h
    · next hl =>
        cases h
        obtain ⟨l, l', hos, -⟩ := List.lookup_eq_some_iff.1 hl
        exact looks_of_offers (hos ▸ List.mem_append_cons_self)
    · cases h

theorem looks_of_follow {n : Nat} {a : Address} {e : Endpoint}
    (h : follow .get n a = .found e) : e.looks = true := by
  induction n generalizing a with
  | zero => exact looks_of_locateAt h
  | succ n ih =>
      unfold follow at h
      split at h
      · split at h
        · cases h
        · exact ih h
      · exact looks_of_locateAt h

end Endpoint

def Request.Polls (r : Request) : Prop :=
  r.method = .get ∨ Endpoint.locate r = .found .discover

theorem Request.Polls.looks {r : Request} (h : r.Polls) {e : Endpoint}
    (he : Endpoint.locate r = .found e) : e.looks = true := by
  rcases h with h | h
  · unfold Endpoint.locate at he
    rw [h] at he
    exact Endpoint.looks_of_follow he
  · rw [h] at he
    cases he
    rfl

namespace Alike

theorem refl (s : Service) : Alike s s := ⟨.refl _ _, rfl, rfl⟩

end Alike

variable {s s' : Service}

theorem withBreaker_alike {b : Breaker} (h : b.Alike s.moment.now s.gateway.exchange.breaker) :
    Alike (s.withBreaker b) s :=
  ⟨(Gateway.Alike.refl s.moment.now s.gateway).setBreaker h, rfl, rfl⟩

theorem withBody_ends {P : Service → Prop} {α : Type} (r : Request) (read : Reader α)
    {f : α → Logged (Response × Service)} (hs : P s) (hf : ∀ a, P (f a).val.2) :
    P (s.withBody r read f).val.2 := by
  unfold withBody
  split
  · exact hs
  · exact hf _
  · exact hs

theorem survey_alike (x : Exchange) (now : Float) (ids : List String) (b : Breaker) :
    (survey x now ids b).val.2.Alike now b := by
  induction ids generalizing b with
  | nil => exact .refl now b
  | cons id ids ih => exact (ih _).trans (b.alike_status id now)

theorem respond_alike {r : Request} (hr : r.Polls) (s : Service) (tick : Float) :
    Alike (s.respond r tick).val.2 s := by
  unfold respond
  cases he : Endpoint.locate r with
  | unknown => exact .refl s
  | wrongMethod => exact .refl s
  | found e =>
      have hl := hr.looks he
      cases e with
      | serversHealth => exact withBreaker_alike (survey_alike _ _ _ _)
      | circuit id => exact withBreaker_alike (Breaker.alike_status _ _ _)
      | discover => exact withBody_ends (P := (Alike · s)) r _ (.refl s) fun _ => .refl s
      | health => exact .refl s
      | agent id => exact .refl s
      | traces => exact .refl s
      | trace id => exact .refl s
      | metrics => exact .refl s
      | probe => cases hl
      | resetCircuit id => cases hl
      | call => cases hl
      | createAgent => cases hl
      | revoke id => cases hl

theorem respond_moment (s : Service) (r : Request) (tick : Float) :
    (s.respond r tick).val.2.moment = s.moment := by
  unfold respond
  cases Endpoint.locate r with
  | unknown => rfl
  | wrongMethod => rfl
  | found e =>
      cases e with
      | discover => exact withBody_ends (P := (·.moment = s.moment)) r _ rfl fun _ => rfl
      | call => exact withBody_ends (P := (·.moment = s.moment)) r _ rfl fun _ => rfl
      | createAgent => exact withBody_ends (P := (·.moment = s.moment)) r _ rfl fun _ => rfl
      | _ => rfl

def atMoment (s : Service) (m : Moment) : Service := { s with moment := m }

inductive Happening where
  | request (r : Request) (tick : Float)
  | pass (ms : Nat)

structure Visit where
  moment : Moment
  happening : Happening

def visit (s : Service) (v : Visit) : Option Response × Service :=
  match v.happening with
  | .request r tick =>
      let answered := ((s.atMoment v.moment).respond r tick).val
      (some (if r.method = .head then answered.1.silent else answered.1), answered.2)
  | .pass ms =>
      let s := s.atMoment v.moment
      (none, s.withGateway (s.gateway.pass s.exchange.ownCheck s.moment ms).val.2)

def answers (s : Service) : List Visit → List (Option Response)
  | [] => []
  | v :: vs => (s.visit v).1 :: (s.visit v).2.answers vs

def Visit.Polls (v : Visit) : Prop :=
  match v.happening with
  | .request r _ => r.Polls
  | .pass _ => False

def visits (m : Moment) : List Arrival → List Visit
  | [] => []
  | a :: as =>
      let m := { m with now := m.now + a.advance }
      ⟨m, .request a.request a.tick⟩ :: visits m as

theorem run_eq_answers (s : Service) (as : List Arrival) :
    (s.run as).map (fun r => some r.1) = s.answers (visits s.moment as) := by
  induction as generalizing s with
  | nil => rfl
  | cons a as ih =>
      have hm : (s.serve a).val.2.moment = { s.moment with now := s.moment.now + a.advance } :=
        respond_moment { s with moment := { s.moment with now := s.moment.now + a.advance } }
          a.request a.tick
      rw [run, List.map_cons, ih, hm]
      rfl

theorem visit_moment (s : Service) (v : Visit) : (s.visit v).2.moment = v.moment := by
  unfold visit
  cases v.happening with
  | request r tick => exact respond_moment (s.atMoment v.moment) r tick
  | pass ms => rfl

namespace Alike

theorem trans {s'' : Service} (h : Alike s s') (h' : Alike s' s'') : Alike s s'' :=
  ⟨h.gateway.trans (h.moment ▸ h'.gateway), h.limits.trans h'.limits, h.moment.trans h'.moment⟩

theorem atMoment {m : Moment} (h : Alike s s') (hm : s.moment.now ≤ m.now) :
    Alike (s.atMoment m) (s'.atMoment m) :=
  ⟨h.gateway.after hm, h.limits, rfl⟩

theorem visit {v : Visit} (h : Alike (s.atMoment v.moment) (s'.atMoment v.moment)) :
    (s.visit v).1 = (s'.visit v).1 ∧ Alike (s.visit v).2 (s'.visit v).2 := by
  unfold Service.visit
  cases v.happening with
  | request r tick =>
      obtain ⟨hr, hs⟩ := h.respond r tick
      dsimp only
      rw [hr]
      exact ⟨rfl, hs⟩
  | pass ms =>
      have hc : (s'.atMoment v.moment).exchange.ownCheck = (s.atMoment v.moment).exchange.ownCheck :=
        h.gateway.exchange.ownCheck.symm
      dsimp only
      rw [hc]
      exact ⟨rfl, h.withGateway (h.gateway.pass _ ms)⟩

end Alike

theorem visit_alike {v : Visit} (hv : v.Polls) (s : Service) :
    Alike (s.visit v).2 (s.atMoment v.moment) := by
  unfold Visit.Polls at hv
  unfold visit
  cases hh : v.happening with
  | request r tick =>
      rw [hh] at hv
      exact respond_alike hv (s.atMoment v.moment) tick
  | pass ms =>
      rw [hh] at hv
      cases hv

def unmarked {α : Type} (as : List (α × Bool)) : List α :=
  (as.filter (fun a => !a.2)).map Prod.fst

theorem answers_of_alike (vs : List (Visit × Bool)) (hp : ∀ v ∈ vs, v.2 = true → v.1.Polls)
    (hc : (vs.map (·.1.moment.now)).Pairwise (· ≤ ·))
    (h : ∀ v ∈ vs, Alike (s.atMoment v.1.moment) (s'.atMoment v.1.moment)) :
    unmarked ((s.answers (vs.map Prod.fst)).zip (vs.map Prod.snd)) = s'.answers (unmarked vs) := by
  -- the marked visits are made in one of the runs only, which stay alike at every later moment
  induction vs generalizing s s' with
  | nil => rfl
  | cons v vs ih =>
      obtain ⟨v, marked⟩ := v
      rw [List.map_cons, List.pairwise_cons] at hc
      have hlater (w : Visit × Bool) (hw : w ∈ vs) : v.moment.now ≤ w.1.moment.now :=
        hc.1 _ (List.mem_map_of_mem hw)
      have hhere := h _ List.mem_cons_self
      have hp' (w : Visit × Bool) (hw : w ∈ vs) := hp w (List.mem_cons_of_mem _ hw)
      cases marked with
      | true =>
          have hpoll := visit_alike (hp _ List.mem_cons_self rfl) s
          refine ih hp' hc.2 fun w hw => ?_
          have hw' := hpoll.atMoment (m := w.1.moment) (by
            rw [visit_moment]
            exact hlater w hw)
          exact hw'.trans (h w (List.mem_cons_of_mem _ hw))
      | false =>
          obtain ⟨hanswer, hnext⟩ := hhere.visit
          have hrest := ih hp' hc.2 fun w hw => hnext.atMoment (by
            rw [visit_moment]
            exact hlater w hw)
          change (s.visit v).1 :: _ = (s'.visit v).1 :: _
          rw [hanswer]
          exact congrArg _ hrest

theorem polling_unseen (s : Service) :
    (∀ as, (s.run as).map (fun r => some r.1) = s.answers (visits s.moment as)) ∧
      ∀ vs : List (Visit × Bool), (∀ v ∈ vs, v.2 = true → v.1.Polls) →
        (vs.map (·.1.moment.now)).Pairwise (· ≤ ·) →
        unmarked ((s.answers (vs.map Prod.fst)).zip (vs.map Prod.snd)) =
          s.answers (unmarked vs) := by
  constructor
  · intro as
    exact run_eq_answers s as
  · intro vs hp hc
    refine answers_of_alike vs hp hc ?_
    intro v _
    exact .refl (s.atMoment v.1.moment)

def shut : Service :=
  let limits : CircuitLimits := ⟨1, 1000, Nat.one_pos⟩
  let plan : ProbePlan := ⟨1000, 1000, 1, Nat.succ_pos 999, Nat.succ_pos 999, Nat.one_pos⟩
  let breaker := ((Breaker.start limits).recordFailure "a" 0.0).val
  ⟨(Gateway.start limits plan true none).setBreaker breaker, ⟨5, 5, Nat.succ_pos 4, Nat.succ_pos 4⟩,
    startMoment⟩

def lookAt (now : Float) : Visit :=
  ⟨⟨now, .epoch⟩, .request ⟨.get, ⟨["v1", "servers", "a", "circuit"], []⟩, .absent⟩ 0.0⟩

def circuitState (s : Service) : Option CircuitState :=
  (s.gateway.exchange.breaker.circuits.get? "a").map Circuit.state

theorem polling_unseen_shut :
    shut.circuitState = some .opened ∧
      (shut.visit (lookAt 2.0)).2.circuitState = some .halfOpen ∧
      unmarked ((shut.answers [lookAt 2.0, lookAt 3.0]).zip [true, false]) =
        shut.answers [lookAt 3.0] := by
  refine ⟨by decide, by decide, ?_⟩
  refine (polling_unseen shut).2 [(lookAt 2.0, true), (lookAt 3.0, false)] ?_ (by decide)
  intro v hv hm
  rcases List.mem_pair.1 hv with rfl | rfl
  · exact .inl rfl
  · cases hm

end Switchboard.Service
