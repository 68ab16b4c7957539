import Switchboard.Catalogue.Form
import Switchboard.Catalogue.Registry
import Switchboard.Text.Uppercase

namespace Switchboard.Builtin

def echoId : String := "builtin:echo"

def faultId : String := "builtin:fault"

def ids : List String := [echoId, faultId]

def echo : Tool where
  name := "echo"
  description := "Echo a text message back, optionally uppercased."
  form := .echo
  handler args :=
    (Outcome.returned (if args.flag "uppercase" then Text.upper (args.text "text")
      else args.text "text")).quiet
  tags := ["diagnostics"]

def wordCount : Tool where
  name := "word_count"
  description := "Count the words in a text passage."
  form := .wordCount
  handler args :=
    (Outcome.returned (Number.intText (Text.wordCount (args.text "text")))).quiet
  tags := ["text"]

def faultCall : Tool where
  name := "fault_call"
  description := "Return a message, or raise an injected failure when asked."
  form := .faultCall
  handler args :=
    (if args.flag "fail" then Outcome.raised "RuntimeError" "injected backend failure"
      else .returned (args.text "message")).quiet
  tags := ["diagnostics"]

def faultSetHealth : Tool where
  name := "fault_set_health"
  description := "Set whether the fault backend health check passes."
  form := .faultHealth
  handler args :=
    ⟨.returned (if args.flag "healthy" then "healthy" else "unhealthy"), some (args.flag "healthy")⟩
  tags := ["diagnostics"]

def echoBackend : Backend := ⟨echoId, "Echo", [echo, wordCount], .absent⟩

def faultBackend : Backend := ⟨faultId, "Fault injection", [faultCall, faultSetHealth], .reports true⟩

def register (r : Registry) : Logged (Except Fault (List String) × Registry) := do
  match ← r.register echoBackend with
  | (.error e, r) => pure (.error e, r)
  | (.ok (), r) =>
      match ← r.register faultBackend with
      | (.error e, r) => pure (.error e, r)
      | (.ok (), r) => pure (.ok ids, r)

end Switchboard.Builtin
