import Switchboard.Number.Notation

namespace Switchboard

inductive Notice where
  | circuitOpened (backend : String) (failures : Nat)
  | circuitReopened (backend : String)
  | circuitHalfOpen (backend : String)
  | circuitClosed (backend : String)
  | seenUnhealthy (backend : String)
  | toolFailed (backend tool message : String)
  | probeFailed (backend message : String)
  | probeStarted (backends intervalMs : Nat)
  | probeStopped
  | indexed (tools terms : Nat)
  | delegationDenied (parent reason : String)
  deriving DecidableEq, Repr

namespace Notice

def level : Notice → String
  | .seenUnhealthy _ => "DEBUG"
  | .circuitOpened .. | .circuitReopened _ | .toolFailed .. | .probeFailed .. => "WARNING"
  | _ => "INFO"

def message : Notice → String
  | .circuitOpened backend failures =>
      "circuit opened for backend " ++ backend ++ " after " ++ Number.intText failures
        ++ " consecutive failures"
  | .circuitReopened backend =>
      "recovery probe failed, circuit reopened for backend " ++ backend
  | .circuitHalfOpen backend => "circuit half-open for backend " ++ backend
  | .circuitClosed backend => "circuit closed for backend " ++ backend
  | .seenUnhealthy backend => "dispatching to backend " ++ backend ++ " last seen unhealthy"
  | .toolFailed backend tool message =>
      "tool call " ++ backend ++ "/" ++ tool ++ " failed: " ++ message
  | .probeFailed backend message =>
      "health probe failed for backend " ++ backend ++ ": " ++ message
  | .probeStarted backends intervalMs =>
      "health probe started for " ++ Number.intText backends ++ " backends every "
        ++ Number.intText intervalMs ++ " ms"
  | .probeStopped => "health probe stopped"
  | .indexed tools terms =>
      "indexed " ++ Number.intText tools ++ " tools (" ++ Number.intText terms ++ " terms)"
  | .delegationDenied parent reason =>
      "delegation denied for child of " ++ parent ++ ": " ++ reason

def line (n : Notice) : String := n.level ++ " " ++ n.message

end Notice

/-- A value with the notices given on the way to it, oldest first. -/
structure Logged (α : Type) where
  val : α
  notices : List Notice

namespace Logged

variable {α β : Type}

def bind (l : Logged α) (f : α → Logged β) : Logged β :=
  let r := f l.val
  ⟨r.val, l.notices ++ r.notices⟩

instance : Monad Logged where
  pure a := ⟨a, []⟩
  bind := bind

def tell (ns : List Notice) : Logged Unit := ⟨(), ns⟩

@[simp] theorem val_pure (a : α) : (pure a : Logged α).val = a := rfl

@[simp] theorem notices_pure (a : α) : (pure a : Logged α).notices = [] := rfl

@[simp] theorem val_bind (l : Logged α) (f : α → Logged β) : (l >>= f).val = (f l.val).val := rfl

@[simp] theorem notices_bind (l : Logged α) (f : α → Logged β) :
    (l >>= f).notices = l.notices ++ (f l.val).notices := rfl

def lines (l : Logged α) : List String :=
  (l.notices.map Notice.line).mergeSort (fun a b => decide (a ≤ b))

end Logged

end Switchboard
