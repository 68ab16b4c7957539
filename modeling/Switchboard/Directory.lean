import Switchboard.Calendar
import Switchboard.Delegation
import Switchboard.Notice
import Switchboard.Roster

namespace Switchboard

structure Identity where
  id : String
  name : String
  tenant : String
  mandate : Mandate
  status : String
  expires : Option Instant
  created : Instant

namespace Identity

def active : String := "active"

def revoked : String := "revoked"

def isActive (i : Identity) : Bool := i.status = active

def toJson (i : Identity) : Json :=
  .obj [("identity_id", .str i.id), ("name", .str i.name), ("tenant_id", .str i.tenant),
    ("metadata", i.mandate.toJson), ("status", .str i.status),
    ("expires_at", Json.ofOption (fun t => .str t.text) i.expires),
    ("created_at", .str i.created.text)]

end Identity

structure AgentRequest where
  name : String
  tenant : String
  parent : Option String
  scopes : List String
  budget : Budget

namespace AgentRequest

def model : String := "CreateAgentRequest"

/-- `stranger` is the complaint about a request, and `inner` about a budget, that is no object. -/
def read (stranger inner : Complaint) : Reader AgentRequest :=
  .record stranger fun m =>
    AgentRequest.mk
      <$> Reader.required m "name" .nonempty
      <*> Reader.required m "tenant_id" .nonempty
      <*> Reader.defaulted m "parent_identity_id" (.optional .text) none
      <*> Reader.defaulted m "scopes" .texts []
      <*> Reader.defaulted m "budget" (Budget.read inner) .unlimited

def toJson (r : AgentRequest) : Json :=
  .obj [("name", .str r.name), ("tenant_id", .str r.tenant),
    ("parent_identity_id", Json.ofOption .str r.parent), ("scopes", Json.strings r.scopes),
    ("budget", r.budget.toJson)]

def parentId? (r : AgentRequest) : Option String := r.parent.filter (fun p => p ≠ "")

end AgentRequest

/-- The stored agents in order of creation; `issued` counts the ids that were made. -/
structure Directory where
  agents : Roster Identity
  issued : Nat

namespace Directory

def empty : Directory := ⟨.empty, 0⟩

def agentId (n : Nat) : String := "agent-" ++ Number.intText n

def get? (d : Directory) (id : String) : Option Identity := d.agents.get? id

def store (d : Directory) (i : Identity) : Except Fault Directory :=
  if d.agents.contains i.id then .error (.identityExists i.id)
  else .ok { d with agents := d.agents.put i.id i }

def setStatus (d : Directory) (id status : String) : Option Identity × Directory :=
  match d.get? id with
  | none => (none, d)
  | some i =>
      let i := { i with status := status }
      (some i, { d with agents := d.agents.put id i })

def list (d : Directory) (tenant : String) (status : Option String) : List Identity :=
  d.agents.values.filter (fun i => i.tenant = tenant && status.all (fun s => i.status = s))

def mandateFor (d : Directory) (r : AgentRequest) : Logged (Except Fault Mandate) :=
  match r.parentId? with
  | none => pure (.ok (.ofRoot r.scopes r.budget))
  | some parentId =>
      match (d.get? parentId).filter Identity.isActive with
      | none => pure (.error (.refused (.of .notFound ("Parent agent not found: " ++ parentId))))
      | some parent =>
          match parent.mandate.denial? r.scopes r.budget with
          | some denial =>
              ⟨.error (.refused (.of .delegationDenied ("Delegation denied: " ++ denial.reason))),
                [.delegationDenied parent.id denial.reason]⟩
          | none => pure (.ok (parent.mandate.delegate parent.id r.scopes r.budget))

/-- The clock as one creation reads it: first for the end of the agent's life, then for the time it
is created at. -/
structure Readings where
  since : Instant
  stamp : Instant

def Readings.once (now : Instant) : Readings := ⟨now, now⟩

def expiryFor (now : Instant) (budget : Budget) : Except Fault (Option Instant) :=
  match budget.ttlHours with
  | none => .ok none
  | some hours =>
      if hours == 0.0 then .ok none
      else do .ok (some (← now.shift (← Span.ofHours hours)))

/-- The id is made last, so that a refused request uses none up; `ids` is the supply it is taken
from. -/
def createFrom (ids : Nat → String) (d : Directory) (r : AgentRequest) (now : Readings) :
    Logged (Except Fault Identity × Directory) := do
  match ← d.mandateFor r with
  | .error e => pure (.error e, d)
  | .ok mandate =>
      match expiryFor now.since r.budget with
      | .error e => pure (.error e, d)
      | .ok expires =>
          let d := { d with issued := d.issued + 1 }
          let identity :=
            ⟨ids d.issued, r.name, r.tenant, mandate, Identity.active, expires, now.stamp⟩
          match d.store identity with
          | .error e => pure (.error e, d)
          | .ok stored => pure (.ok identity, stored)

def create (d : Directory) (r : AgentRequest) (now : Readings) :
    Logged (Except Fault Identity × Directory) :=
  d.createFrom agentId r now

def revoke (d : Directory) (id : String) : Bool × Directory :=
  let (i, d) := d.setStatus id Identity.revoked
  (i.isSome, d)

end Directory

end Switchboard
