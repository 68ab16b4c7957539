import Switchboard.Proofs.Dispatch.Health
import Switchboard.Proofs.Probe.Prompt
import Switchboard.Proofs.Service.Keeping
import Switchboard.Proofs.Validation.Passed

namespace Switchboard

theorem ProbePlan.timely_of_read {interval : Int} {plan : ProbePlan}
    (h : read (.obj [("interval_ms", .whole interval)]) = .passed plan) : plan.timely = true := by
  obtain ⟨f, concurrency, hf, hconcurrency, rfl⟩ := Checked.seq_eq_passed_iff.1 h
  obtain ⟨g, timeout, hg, htimeout, rfl⟩ := Checked.seq_eq_passed_iff.1 hf
  obtain ⟨every, -, rfl⟩ := Checked.map_eq_passed_iff.1 hg
  cases htimeout
  change (Number.ofInt? 10000).isSome = true
  decide +kernel

theorem Settings.passed_of_checked {α : Type} {model : String} {c : Checked α} {a : α}
    (h : checked model c = .ok a) : c = .passed a := by
  cases c with
  | passed b => exact congrArg _ (Except.ok.inj h)
  | failed issues => cases h

theorem Settings.timely_of_startUp {env : List (String × String)} {settings : Settings}
    (h : startUp env = .ok settings) : settings.probe.timely = true := by
  obtain ⟨read, hread, h⟩ := exists_of_bind h
  obtain ⟨threshold, -, hread⟩ := exists_of_bind hread
  obtain ⟨resetMs, -, hread⟩ := exists_of_bind hread
  obtain ⟨circuit, -, hread⟩ := exists_of_bind hread
  obtain ⟨interval, -, hread⟩ := exists_of_bind hread
  obtain ⟨probe, hprobe, hread⟩ := exists_of_bind hread
  cases hread
  split at h
  · cases h
    exact ProbePlan.timely_of_read (passed_of_checked hprobe)
  · cases h

theorem Registry.exists_registered {r : Registry} {b : Backend} (hid : b.id ∉ r.ids)
    (hnames : (b.tools.map Tool.name).Nodup) :
    ∃ after, (r.register b).val = (.ok (), after) ∧ after.backends = r.backends.put b.id b := by
  have hfree := (r.conflict?_eq_none_iff b).2 ⟨hid, hnames⟩
  refine ⟨_, congrArg Logged.val (register_of_free hfree), ?_⟩
  rw [announce_eq]
  rfl

theorem Builtin.exists_registered {r : Registry} (hr : r.backends = .empty) :
    ∃ after, (register r).val = (.ok ids, after) ∧ after.Equipped true := by
  obtain ⟨first, hfirst, hecho⟩ := Registry.exists_registered (r := r) (b := echoBackend)
    (by rw [Registry.ids, hr]; decide) (by decide)
  have hfree : faultBackend.id ∉ first.ids := by
    rw [Registry.ids, hecho, hr]
    decide
  obtain ⟨after, hafter, hfault⟩ := Registry.exists_registered hfree (by decide)
  refine ⟨after, ?_, ?_, ?_⟩
  · simp only [register, Logged.val_bind, hfirst, hafter, Logged.val_pure]
  · rw [hfault, Roster.get?_put_of_ne _ _ (by decide), hecho]
    exact Roster.get?_put_self _ _ _
  · rw [hfault]
    exact Roster.get?_put_self _ _ _

structure Watch.Ready (w : Watch) : Prop where
  backends : w.backends = Builtin.ids
  bound : w.bound = true
  timely : w.plan.timely = true
  alone : w.Alone w.ms

theorem Watch.Ready.calm {w w' : Watch} (h : w.Ready) (hc : w.Calm w') : w'.Ready where
  backends := hc.backends.trans h.backends
  bound := hc.bound.trans h.bound
  timely := hc.plan ▸ h.timely
  alone := hc.alone

theorem Watch.ready_start {plan : ProbePlan} (ht : plan.timely = true) :
    Ready (Builtin.ids.foldl Watch.add (.start plan true)) :=
  ⟨rfl, rfl, ht, rfl, rfl, fun _ hwake => by cases hwake⟩

theorem Watch.Ready.begin {w : Watch} (h : w.Ready) : w.begin.val.Ready := by
  rw [Watch.begin]
  split
  · exact h
  · refine ⟨h.backends, h.bound, h.timely, h.alone.strays, ?_, fun wake hwake => ?_⟩
    · change taskRound (if w.plan.regular then _ else _) = none
      split <;> rfl
    · change wake? (if w.plan.regular then _ else _) = some wake at hwake
      split at hwake
      · cases hwake
        exact Nat.lt_add_of_pos_right w.plan.interval_pos
      · cases hwake

namespace Service

structure Wired (healthy : Bool) (s : Service) : Prop where
  equipped : s.exchange.registry.Equipped healthy
  ready : s.gateway.watch.Ready

theorem wired_start {s : Service} {env : List (String × String)} {watching : Bool}
    (h : start env watching = .ok s) : s.Wired true := by
  obtain ⟨settings, ids, registry, hsettings, hbegins⟩ := exists_of_start h
  obtain ⟨after, hregistered, hequipped⟩ :=
    Builtin.exists_registered (r := (Registry.empty.subscribe .index).val) rfl
  obtain ⟨hids, rfl⟩ := Prod.mk.inj (hregistered.symm.trans hbegins.registered)
  cases hids
  have hready := Watch.ready_start (Settings.timely_of_startUp hsettings)
  refine ⟨?_, ?_⟩
  · rw [hbegins.exchange]
    exact hequipped
  · rw [hbegins.watch]
    cases watching with
    | true => exact hready.begin
    | false => exact hready

end Service

end Switchboard
