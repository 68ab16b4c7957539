import Switchboard.Json

namespace Switchboard

inductive RefusalKind where
  | notFound
  | forbidden
  | delegationDenied
  | circuitOpen
  | invalidArguments
  | backendFailure
  deriving DecidableEq, Repr

namespace RefusalKind

def all : List RefusalKind :=
  [.notFound, .forbidden, .delegationDenied, .circuitOpen, .invalidArguments, .backendFailure]

def name : RefusalKind → String
  | .notFound => "not_found"
  | .forbidden => "forbidden"
  | .delegationDenied => "delegation_denied"
  | .circuitOpen => "circuit_open"
  | .invalidArguments => "invalid_arguments"
  | .backendFailure => "upstream_failure"

def status : RefusalKind → Int
  | .notFound => 404
  | .forbidden => 403
  | .delegationDenied => 403
  | .circuitOpen => 503
  | .invalidArguments => 422
  | .backendFailure => 502

def ofName? (s : String) : Option RefusalKind := all.find? (fun k => k.name = s)

end RefusalKind

structure Refusal where
  kind : RefusalKind
  message : String
  status : Int
  retryAfter : Option Number

namespace Refusal

def of (kind : RefusalKind) (message : String) : Refusal := ⟨kind, message, kind.status, none⟩

def body (r : Refusal) : Json :=
  .obj ([("error", .str r.kind.name), ("message", .str r.message)] ++
    (match r.retryAfter with
      | some x => [("retry_after", Json.ofNumber x)]
      | none => []))

end Refusal

end Switchboard
