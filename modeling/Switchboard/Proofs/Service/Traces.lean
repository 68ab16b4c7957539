import Switchboard.Proofs.Gateway.Tracing
import Switchboard.Proofs.Ledger.Recent
import Switchboard.Proofs.Service.Retry

namespace Switchboard

def Ledger.Onward (l l' : Ledger) : Prop := ∃ adds, l' = l.addAll adds

theorem Ledger.Onward.refl (l : Ledger) : l.Onward l := ⟨[], rfl⟩

theorem Ledger.Onward.trans {l l' l'' : Ledger} (h : l.Onward l') (h' : l'.Onward l'') :
    l.Onward l'' := by
  obtain ⟨before, rfl⟩ := h
  obtain ⟨after, rfl⟩ := h'
  exact ⟨before ++ after, (l.addAll_append before after).symm⟩

theorem Attempt.ledger_onward (a : Attempt) : a.exchange.ledger.Onward a.result.2.ledger := by
  rcases a.traced with ⟨-, hsame, -⟩ | ⟨-, t, -, hgains⟩
  · rw [hsame]
    exact .refl _
  · exact ⟨[(a.moment.wall, t)], hgains.eq_add⟩

theorem Gateway.ledger_onward (ids : Nat → String) (g : Gateway) (deed : Deed) :
    g.exchange.ledger.Onward (act ids g deed).exchange.ledger := by
  rcases ledger_act ids g deed with ⟨-, hsame⟩ | ⟨a, -, hx, hresult⟩
  · rw [hsame]
    exact .refl _
  · rw [hresult, ← hx]
    exact a.ledger_onward

namespace Service

variable {s : Service} {q : Request}

def ledger (s : Service) : Ledger := s.exchange.ledger

theorem respond_ledger (s : Service) (q : Request) (tick : Float) :
    s.ledger.Onward (s.respond q tick).val.2.ledger := by
  have hact := s.gateway.ledger_onward Directory.agentId
  rw [respond]
  cases Endpoint.locate q with
  | unknown => exact .refl _
  | wrongMethod => exact .refl _
  | found e =>
      cases e with
      | probe => exact hact (.probeAll s.exchange.ownCheck s.moment)
      | call =>
          exact withBody_ends (P := (s.ledger.Onward ·.ledger)) q _ (.refl _) fun c =>
            hact (.call s.moment c tick)
      | discover =>
          exact withBody_ends (P := (s.ledger.Onward ·.ledger)) q _ (.refl _) fun _ => .refl _
      | createAgent =>
          exact withBody_ends (P := (s.ledger.Onward ·.ledger)) q _ (.refl _) fun _ => .refl _
      | _ => exact .refl _

theorem visit_ledger (s : Service) (v : Visit) : s.ledger.Onward (s.visit v).2.ledger := by
  rw [visit]
  cases v.happening with
  | request q tick => exact respond_ledger (s.atMoment v.moment) q tick
  | pass ms =>
      exact s.gateway.ledger_onward Directory.agentId (.pass s.exchange.ownCheck v.moment ms)

theorem after_ledger (s : Service) (vs : List Visit) : s.ledger.Onward (s.after vs).ledger := by
  induction vs generalizing s with
  | nil => exact .refl _
  | cons v vs ih => exact (visit_ledger s v).trans (ih _)

theorem respond_traces {limit : Int} (hq : Endpoint.locate q = .found .traces)
    (hlimit : q.whole "limit" 20 = .passed limit) (s : Service) (tick : Float) :
    (s.respond q tick).val.1 =
      .ok (items ((s.ledger.recent limit).map TraceRecord.toJson)) := by
  rw [respond, hq]
  simp only [Service.answer, traces, hlimit]
  rfl

theorem traces_honour_positive_limits (supply : IdSupply) (capacity : Option Nat)
    (adds : List (Instant × Trace)) :
    ((Ledger.start supply capacity).addAll adds).Lists capacity (Ledger.made supply adds) ∧
    ∀ env watching s, start env watching = .ok s → ∀ vs, ∃ entered,
      (s.after vs).ledger = (Ledger.start .traces (some Ledger.standardCapacity)).addAll entered ∧
      ∀ m q tick limit, Endpoint.locate q = .found .traces →
        q.whole "limit" 20 = .passed limit →
        (((s.after vs).atMoment m).respond q tick).val.1 =
          .ok (items (((s.after vs).ledger.recent limit).map TraceRecord.toJson)) := by
  refine ⟨(Ledger.retains_addAll supply capacity adds).lists, ?_⟩
  intro env watching s hs vs
  obtain ⟨settings, ids, registry, -, hbegins⟩ := exists_of_start hs
  obtain ⟨entered, hentered⟩ := after_ledger s vs
  have hledger : s.ledger = .start .traces (some Ledger.standardCapacity) :=
    congrArg Exchange.ledger hbegins.exchange
  refine ⟨entered, hledger ▸ hentered, ?_⟩
  intro m q tick limit hq hlimit
  exact respond_traces hq hlimit ((s.after vs).atMoment m) tick

def tracesUpTo (limit : String) : Request := ⟨.get, ⟨["traces"], [("limit", limit)]⟩, .absent⟩

theorem traces_honour_limit_of_two : ∃ s, start [] false = .ok s ∧
    ∃ adds, (s.after [failing, failing]).ledger =
        (Ledger.start .traces (some Ledger.standardCapacity)).addAll adds ∧
      ((s.after [failing, failing]).ledger.recent 1).map TraceRecord.id = ["trace-2"] ∧
      (s.after [failing, failing]).ledger.recent 1 =
        Ledger.newest (min 1 2) (Ledger.made .traces adds) ∧
      ((s.after [failing, failing]).respond (tracesUpTo "1") 0.0).val.1 =
        .ok (items (((s.after [failing, failing]).ledger.recent 1).map TraceRecord.toJson)) := by
  obtain ⟨s, hs, hlength, hids⟩ := exists_start [] false
    (fun s => (s.after [failing, failing]).ledger.records.length = 2 ∧
      ((s.after [failing, failing]).ledger.recent 1).map TraceRecord.id = ["trace-2"])
    (by decide +kernel)
  obtain ⟨adds, hadds, hanswers⟩ :=
    (traces_honour_positive_limits .traces none []).2 [] false s hs [failing, failing]
  have hlists := (traces_honour_positive_limits .traces (some Ledger.standardCapacity) adds).1
  refine ⟨s, hs, adds, hadds, hids, ?_, ?_⟩
  · have hnewest := (hlists.honours 1).2 (.inl Nat.one_pos)
    rw [← hadds, hlength] at hnewest
    exact hnewest
  · exact hanswers (s.after [failing, failing]).moment (tracesUpTo "1") 0.0 1 (by decide +kernel)
      (by rfl)

theorem zero_limit_lists_everything :
    Endpoint.locate (tracesUpTo "0") = .found .traces ∧
    (tracesUpTo "0").whole "limit" 20 = .passed 0 ∧
    ∃ s, start [] false = .ok s ∧ (s.after [failing]).ledger.records.length = 1 ∧
      ((s.after [failing]).ledger.recent 0).length = 1 ∧
      (Ledger.newest (min 0 1) (s.after [failing]).ledger.records).length = 0 := by
  refine ⟨by decide +kernel, by rfl, ?_⟩
  exact exists_start [] false _ (by decide +kernel)

end Service

end Switchboard
