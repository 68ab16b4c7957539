import Switchboard.Catalogue.Builtin
import Switchboard.Directory
import Switchboard.Probe.Watch

namespace Switchboard

structure Gateway where
  exchange : Exchange
  directory : Directory
  watch : Watch

namespace Gateway

def startFrom (supply : IdSupply) (limits : CircuitLimits) (plan : ProbePlan) (bound : Bool)
    (capacity : Option Nat) : Gateway :=
  ⟨.start limits (.start supply capacity), .empty, .start plan bound⟩

def start (limits : CircuitLimits) (plan : ProbePlan) (bound : Bool) (capacity : Option Nat) :
    Gateway :=
  startFrom .traces limits plan bound capacity

def setRegistry (g : Gateway) (r : Registry) : Gateway :=
  { g with exchange := { g.exchange with registry := r } }

def setBreaker (g : Gateway) (b : Breaker) : Gateway :=
  { g with exchange := { g.exchange with breaker := b } }

def setSightings (g : Gateway) (s : Sightings) : Gateway :=
  { g with exchange := { g.exchange with sightings := s } }

def setLedger (g : Gateway) (l : Ledger) : Gateway :=
  { g with exchange := { g.exchange with ledger := l } }

def dispatch (g : Gateway) (m : Moment) (c : Call) : Logged (Except Fault String × Gateway) := do
  let (r, x) ← g.exchange.dispatch m c
  pure (r, { g with exchange := x })

def createAgent (g : Gateway) (m : Moment) (r : AgentRequest) :
    Logged (Except Fault Identity × Gateway) := do
  let (i, d) ← g.directory.create r (.once m.wall)
  pure (i, { g with directory := d })

def probeAll (g : Gateway) (course : String → ProbeCourse) (m : Moment) :
    Logged (Except Fault (List (String × Bool)) × WatchReport × Gateway) := do
  let (answer, report, w, x) ← g.watch.probeAll course m.now g.exchange
  pure (answer, report, { g with watch := w, exchange := x })

def pass (g : Gateway) (course : String → ProbeCourse) (m : Moment) (ms : Nat) :
    Logged (WatchReport × Gateway) := do
  let (report, w, x) ← g.watch.pass course m.now g.exchange ms
  pure (report, { g with watch := w, exchange := x })

end Gateway

end Switchboard
