import Switchboard.Gateway

namespace Switchboard

structure AgentCall where
  backend : String
  tool : String
  arguments : List (String × Json)
  agent : Option String

namespace AgentCall

def model : String := "ToolCallRequest"

def read (stranger : Complaint) : Reader AgentCall :=
  .record stranger fun m =>
    AgentCall.mk
      <$> Reader.required m "backend_id" .nonempty
      <*> Reader.required m "tool_name" .nonempty
      <*> Reader.defaulted m "arguments" .object []
      <*> Reader.defaulted m "agent_id" (.optional .text) none

def toJson (c : AgentCall) : Json :=
  .obj [("backend_id", .str c.backend), ("tool_name", .str c.tool), ("arguments", .obj c.arguments),
    ("agent_id", Json.ofOption .str c.agent)]

end AgentCall

namespace Directory

def callerScopes (d : Directory) : Option String → Except Refusal (Option (List String))
  | none => .ok none
  | some id => match (d.get? id).filter Identity.isActive with
      | none => .error (.of .notFound ("Agent not found: " ++ id))
      | some i => .ok (some i.mandate.scopes)

end Directory

namespace Gateway

def call (g : Gateway) (m : Moment) (c : AgentCall) (tick : Float) :
    Logged (Except Fault String × Gateway) :=
  match g.directory.callerScopes c.agent with
  | .error refusal => pure (.error (.refused refusal), g)
  | .ok scopes => g.dispatch m ⟨c.backend, c.tool, .obj c.arguments, scopes, tick⟩

end Gateway

end Switchboard
