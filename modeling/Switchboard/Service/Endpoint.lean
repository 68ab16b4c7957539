import Switchboard.Service.Message

namespace Switchboard.Service

inductive Endpoint where
  | health
  | serversHealth
  | probe
  | circuit (backend : String)
  | resetCircuit (backend : String)
  | discover
  | call
  | createAgent
  | agent (id : String)
  | revoke (id : String)
  | traces
  | trace (id : String)
  | metrics
  deriving DecidableEq, Repr

inductive Located where
  | unknown
  | wrongMethod
  | found (endpoint : Endpoint)
  deriving DecidableEq, Repr

namespace Endpoint

def named (name : String) (offers : List (Method × Endpoint)) : List (Method × Endpoint) :=
  if name = "" then [] else offers

def offers : List String → List (Method × Endpoint)
  | ["health"] => [(.get, .health)]
  | ["v1", "servers", "health"] => [(.get, .serversHealth)]
  | ["v1", "servers", "probe"] => [(.post, .probe)]
  | ["v1", "servers", id, "circuit"] => named id [(.get, .circuit id)]
  | ["v1", "servers", id, "circuit", "reset"] => named id [(.post, .resetCircuit id)]
  | ["v1", "tools", "discover"] => [(.post, .discover)]
  | ["v1", "tools", "call"] => [(.post, .call)]
  | ["v1", "agents"] => [(.post, .createAgent)]
  | ["v1", "agents", id] => named id [(.get, .agent id), (.delete, .revoke id)]
  | ["traces"] => [(.get, .traces)]
  | ["traces", id] => named id [(.get, .trace id)]
  | ["metrics"] => [(.get, .metrics)]
  | _ => []

/-- One line feed behind a path goes unnoticed, unless it belongs to a name. -/
def withoutLineFeed (path : List String) : List String :=
  match path.reverse with
  | last :: before => match last.toList.reverse with
      | '\n' :: cs => (String.ofList cs.reverse :: before).reverse
      | _ => path
  | [] => path

def offersAt (path : List String) : List (Method × Endpoint) :=
  match offers path with
  | [] => offers (withoutLineFeed path)
  | os => os

def locateAt (m : Method) (path : List String) : Located :=
  match offersAt path with
  | [] => .unknown
  | os => match os.lookup m with
      | some e => .found e
      | none => .wrongMethod

def redirectLimit : Nat := 20

def follow (m : Method) : Nat → Address → Located
  | 0, a => locateAt m a.path
  | n + 1, a => match locateAt m a.path with
      | .unknown => match locateAt m a.trimmed.path with
          | .unknown => .unknown
          | _ => follow m n a.trimmed.resent
      | l => l

def locate (r : Request) : Located := follow r.method redirectLimit r.address

end Endpoint

end Switchboard.Service
