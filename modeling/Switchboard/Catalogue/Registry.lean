import Switchboard.Catalogue.Tool
import Switchboard.Discovery.Ranking
import Switchboard.Roster

namespace Switchboard

open Discovery (Entry Index)

inductive Listener where
  | named (name : String)
  | index
  deriving DecidableEq, Repr

structure Delivery where
  listener : String
  entries : List Entry

structure ExportedTool where
  name : String
  backend : String
  tool : Tool

def ExportedTool.description (t : ExportedTool) : String :=
  String.ofList (Text.trimBy Text.isBreak t.tool.description.toList)

structure Registry where
  backends : Roster Backend
  listeners : List Listener
  deliveries : List Delivery
  index : Index

namespace Registry

def empty : Registry := ⟨.empty, [], [], .empty⟩

def ids (r : Registry) : List String := r.backends.ids

def entriesOf (b : Backend) : List Entry :=
  b.tools.map (fun t => ⟨b.id, b.name, t.name, t.description⟩)

def catalogue (r : Registry) : List Entry := r.backends.values.flatMap entriesOf

def reindex (r : Registry) (es : List Entry) : Logged Registry :=
  let index := Index.build es
  ⟨{ r with index := index }, [index.notice]⟩

def deliver (es : List Entry) (r : Registry) : Listener → Logged Registry
  | .named name => pure { r with deliveries := r.deliveries ++ [⟨name, es⟩] }
  | .index => r.reindex es

def announce (r : Registry) : Logged Registry := r.listeners.foldlM (deliver r.catalogue) r

def subscribe (r : Registry) (l : Listener) : Logged Registry :=
  deliver r.catalogue { r with listeners := r.listeners ++ [l] } l

def conflict? (r : Registry) (b : Backend) : Option Fault :=
  if r.backends.contains b.id then some (.backendExists b.id)
  else if (b.tools.map Tool.name).Nodup then none
  else some (.duplicateTools b.id)

def register (r : Registry) (b : Backend) : Logged (Except Fault Unit × Registry) :=
  match r.conflict? b with
  | some e => pure (.error e, r)
  | none => do
      let r ← { r with backends := r.backends.put b.id b }.announce
      pure (.ok (), r)

def unregister (r : Registry) (id : String) : Logged (Bool × Registry) :=
  if r.backends.contains id then do
    let r ← { r with backends := r.backends.erase id }.announce
    pure (true, r)
  else pure (false, r)

def collect (r : Registry) : List Delivery × Registry :=
  (r.deliveries, { r with deliveries := [] })

def setHealth (r : Registry) (id : String) : Option Bool → Registry
  | none => r
  | some healthy => match r.backends.get? id with
      | none => r
      | some b => { r with backends := r.backends.put id { b with check := .reports healthy } }

def exported (r : Registry) : List ExportedTool :=
  r.backends.values.flatMap (fun b =>
    b.tools.map (fun t => ⟨Tool.exportedName b.id t.name, b.id, t⟩))

def checkHealth (r : Registry) (id : String) : Except Fault Bool :=
  match r.backends.get? id with
  | none => .ok false
  | some b => match b.check with
      | .absent => .ok true
      | .reports healthy => .ok healthy
      | .raises message => .error (.healthCheckFailed message)

end Registry

end Switchboard
