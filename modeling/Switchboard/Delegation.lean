import Switchboard.Scope
import Switchboard.Validation.Reader

namespace Switchboard

structure Budget where
  maxCalls : Option Nat
  maxCost : Option Float
  ttlHours : Option Float

structure Mandate where
  scopes : List String
  budget : Budget
  depth : Nat
  root : Option String
  parent : Option String

inductive Denial where
  | tooDeep
  | scopes
  | calls
  | cost
  | ttl
  deriving DecidableEq, Repr

namespace Budget

def unlimited : Budget := ⟨none, none, none⟩

def model : String := "AgentBudget"

def read (stranger : Complaint) : Reader Budget :=
  .record stranger fun m =>
    Budget.mk
      <$> Reader.defaulted m "max_tool_calls" (.optional .count) none
      <*> Reader.defaulted m "max_cost_usd" (.optional .amount) none
      <*> Reader.defaulted m "ttl_hours" (.optional .amount) none

def toJson (b : Budget) : Json :=
  .obj [("max_tool_calls", Json.ofOption Json.ofNat b.maxCalls),
    ("max_cost_usd", Json.ofOption .real b.maxCost), ("ttl_hours", Json.ofOption .real b.ttlHours)]

end Budget

def callsExceed : Option Nat → Option Nat → Bool
  | some child, some parent => child > parent
  | _, _ => false

def amountExceeds : Option Float → Option Float → Bool
  | some child, some parent => child > parent
  | _, _ => false

namespace Denial

def reason : Denial → String
  | .tooDeep => "Max delegation depth (3) exceeded"
  | .scopes => "Child scopes exceed parent scopes"
  | .calls => "Child tool call budget exceeds parent"
  | .cost => "Child cost budget exceeds parent"
  | .ttl => "Child TTL exceeds parent"

end Denial

namespace Mandate

def maxDepth : Nat := 3

def model : String := "DelegationMetadata"

def ofRoot (scopes : List String) (budget : Budget) : Mandate := ⟨scopes, budget, 0, none, none⟩

def read : Reader Mandate :=
  .record (.record model) fun m =>
    Mandate.mk
      <$> Reader.defaulted m "scopes" .texts []
      <*> Reader.defaulted m "budget" (Budget.read (.record Budget.model)) .unlimited
      <*> Reader.defaulted m "delegation_depth" .count 0
      <*> Reader.defaulted m "root_identity_id" (.optional .text) none
      <*> Reader.defaulted m "parent_identity_id" (.optional .text) none

def toJson (m : Mandate) : Json :=
  .obj [("scopes", Json.strings m.scopes), ("budget", m.budget.toJson),
    ("delegation_depth", .ofNat m.depth), ("root_identity_id", Json.ofOption .str m.root),
    ("parent_identity_id", Json.ofOption .str m.parent)]

def denial? (parent : Mandate) (scopes : List String) (budget : Budget) : Option Denial :=
  if parent.depth ≥ maxDepth then some .tooDeep
  else if !Scope.isSubset parent.scopes scopes then some .scopes
  else if callsExceed budget.maxCalls parent.budget.maxCalls then some .calls
  else if amountExceeds budget.maxCost parent.budget.maxCost then some .cost
  else if amountExceeds budget.ttlHours parent.budget.ttlHours then some .ttl
  else none

def rootFrom (parent : Mandate) (parentId : String) : String :=
  match parent.root with
  | some r => if r = "" then parentId else r
  | none => parentId

def delegate (parent : Mandate) (parentId : String) (scopes : List String) (budget : Budget) :
    Mandate :=
  ⟨scopes, budget, parent.depth + 1, some (parent.rootFrom parentId), some parentId⟩

def readChild (parent : Mandate) (parentId : String) (scopes : Json) (budget : Budget) :
    Checked Mandate :=
  ((Reader.texts scopes).within (.field "scopes")).map
    (fun scopes => parent.delegate parentId scopes budget)

structure Approves (parent : Mandate) (scopes : List String) (budget : Budget) : Prop where
  depth : parent.depth < maxDepth
  scopes : Scope.isSubset parent.scopes scopes = true
  calls : callsExceed budget.maxCalls parent.budget.maxCalls = false
  cost : amountExceeds budget.maxCost parent.budget.maxCost = false
  ttl : amountExceeds budget.ttlHours parent.budget.ttlHours = false

theorem denial?_eq_none_iff (parent : Mandate) (scopes : List String) (budget : Budget) :
    parent.denial? scopes budget = none ↔ parent.Approves scopes budget := by
  constructor
  · intro h
    unfold denial? at h
    split at h
    · simp at h
    · next hd =>
        split at h
        · simp at h
        · next hs =>
            split at h
            · simp at h
            · next hc =>
                split at h
                · simp at h
                · next hm =>
                    split at h
                    · simp at h
                    · next ht =>
                        exact ⟨by omega, by simpa using hs, by simpa using hc, by simpa using hm,
                          by simpa using ht⟩
  · intro h
    have hd : ¬ parent.depth ≥ maxDepth := Nat.not_le.2 h.depth
    simp [denial?, hd, h.scopes, h.calls, h.cost, h.ttl]

end Mandate

end Switchboard
