import Switchboard.AgentCall
import Switchboard.Breaker
import Switchboard.Calendar
import Switchboard.Catalogue.Builtin
import Switchboard.Catalogue.Form
import Switchboard.Catalogue.Registry
import Switchboard.Catalogue.Tool
import Switchboard.Circuit
import Switchboard.Delegation
import Switchboard.Directory
import Switchboard.Discovery.Index
import Switchboard.Discovery.Inquiry
import Switchboard.Discovery.Ranking
import Switchboard.Discovery.Token
import Switchboard.Dispatch
import Switchboard.Fault
import Switchboard.Form
import Switchboard.Gateway
import Switchboard.Json
import Switchboard.Json.Reader
import Switchboard.Json.Writer
import Switchboard.Ledger
import Switchboard.Notice
import Switchboard.Number.Basic
import Switchboard.Number.Binary
import Switchboard.Number.Elementary
import Switchboard.Number.Notation
import Switchboard.Number.Reading
import Switchboard.Number.Shortest
import Switchboard.Probe.Round
import Switchboard.Probe.Verdict
import Switchboard.Probe.Watch
import Switchboard.Proofs.Breaker.Account
import Switchboard.Proofs.Breaker.Admission
import Switchboard.Proofs.Breaker.Alike
import Switchboard.Proofs.Breaker.History
import Switchboard.Proofs.Breaker.Rest
import Switchboard.Proofs.Breaker.Run
import Switchboard.Proofs.Breaker.Wait
import Switchboard.Proofs.Calendar.Span
import Switchboard.Proofs.Directory.Ancestry
import Switchboard.Proofs.Directory.Creation
import Switchboard.Proofs.Directory.Escalation
import Switchboard.Proofs.Directory.Expiry
import Switchboard.Proofs.Directory.Lifetime
import Switchboard.Proofs.Directory.Limits
import Switchboard.Proofs.Directory.Lineage
import Switchboard.Proofs.Directory.Revocation
import Switchboard.Proofs.Directory.Run
import Switchboard.Proofs.Discovery.Accuracy
import Switchboard.Proofs.Discovery.Callable
import Switchboard.Proofs.Discovery.Census
import Switchboard.Proofs.Discovery.Cut
import Switchboard.Proofs.Discovery.Frequency
import Switchboard.Proofs.Discovery.Lowering
import Switchboard.Proofs.Discovery.Matching
import Switchboard.Proofs.Discovery.Score
import Switchboard.Proofs.Discovery.Stability
import Switchboard.Proofs.Discovery.Tally
import Switchboard.Proofs.Dispatch.Agreement
import Switchboard.Proofs.Dispatch.Alike
import Switchboard.Proofs.Dispatch.Blame
import Switchboard.Proofs.Dispatch.Effect
import Switchboard.Proofs.Dispatch.Health
import Switchboard.Proofs.Dispatch.Passage
import Switchboard.Proofs.Dispatch.Wait
import Switchboard.Proofs.Gateway.Agreement
import Switchboard.Proofs.Gateway.Closure
import Switchboard.Proofs.Gateway.Revocation
import Switchboard.Proofs.Gateway.Tracing
import Switchboard.Proofs.History
import Switchboard.Proofs.Ledger.Percentile
import Switchboard.Proofs.Ledger.Recent
import Switchboard.Proofs.Ledger.Retention
import Switchboard.Proofs.Number.Arithmetic
import Switchboard.Proofs.Number.Conversion
import Switchboard.Proofs.Number.Division
import Switchboard.Proofs.Number.Exact
import Switchboard.Proofs.Number.Order
import Switchboard.Proofs.Number.Ratio
import Switchboard.Proofs.Number.Root
import Switchboard.Proofs.Number.Rounding
import Switchboard.Proofs.Number.Sign
import Switchboard.Proofs.Number.Sum
import Switchboard.Proofs.Number.Threshold
import Switchboard.Proofs.Number.Value
import Switchboard.Proofs.Probe.Completion
import Switchboard.Proofs.Probe.Entry
import Switchboard.Proofs.Probe.Keeping
import Switchboard.Proofs.Probe.Prompt
import Switchboard.Proofs.Registry.Export
import Switchboard.Proofs.Registry.Publication
import Switchboard.Proofs.Registry.Run
import Switchboard.Proofs.Scope.Coverage
import Switchboard.Proofs.Scope.Exposure
import Switchboard.Proofs.Scope.Wildcard
import Switchboard.Proofs.Service.Alike
import Switchboard.Proofs.Service.Closure
import Switchboard.Proofs.Service.Keeping
import Switchboard.Proofs.Service.Polling
import Switchboard.Proofs.Service.Recovery
import Switchboard.Proofs.Service.Retry
import Switchboard.Proofs.Service.Traces
import Switchboard.Proofs.Service.Wiring
import Switchboard.Proofs.Validation.Passed
import Switchboard.Refusal
import Switchboard.Roster
import Switchboard.Scope
import Switchboard.Service.Address
import Switchboard.Service.Basic
import Switchboard.Service.Endpoint
import Switchboard.Service.Message
import Switchboard.Session
import Switchboard.Settings
import Switchboard.Sighting
import Switchboard.Text.Alphanumeric
import Switchboard.Text.Blank
import Switchboard.Text.DecimalDigit
import Switchboard.Text.Encoding
import Switchboard.Text.Hex
import Switchboard.Text.Printable
import Switchboard.Text.Quoted
import Switchboard.Text.Ranges
import Switchboard.Text.Surrogate
import Switchboard.Text.Uppercase
import Switchboard.Text.Utf8
import Switchboard.Validation.Checked
import Switchboard.Validation.Issue
import Switchboard.Validation.Reader
