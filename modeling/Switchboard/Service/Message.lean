import Switchboard.Fault
import Switchboard.Json.Reader
import Switchboard.Service.Address
import Switchboard.Validation.Reader

namespace Switchboard.Service

inductive Method where
  | get
  | post
  | delete
  | head
  | other (name : String)
  deriving DecidableEq, Repr

def Method.ofName (s : String) : Method :=
  match String.ofList (s.toList.map Char.toUpper) with
  | "GET" => .get
  | "POST" => .post
  | "DELETE" => .delete
  | "HEAD" => .head
  | name => .other name

inductive Body where
  | absent
  | json (j : Json)
  | text (s : String)

structure Request where
  method : Method
  address : Address
  body : Body

inductive Content where
  | json (j : Json)
  | text (s : String)

structure Response where
  status : Int
  content : Content
  retryAfter : Option Int

namespace Body

/-- A malformed text is an issue like others; one that cannot be taken apart at all is none. -/
def value? : Body → Option (Checked Json)
  | .absent => some (.refuse .missing .null)
  | .json j => some (.passed j)
  | .text s =>
      if s = "" then some (.refuse .missing .null)
      else match Json.parseBytes (s.toList.flatMap Text.encodeUtf8) with
        | .ok j => some (.passed j)
        | .error (.malformed pos) =>
            some ((Checked.refuse .malformed (.obj [])).within (.item pos))
        | .error _ => none

def read? {α : Type} (b : Body) (r : Reader α) : Option (Checked α) :=
  b.value?.map (fun c => (c.andThen r).within (.field "body"))

end Body

namespace Request

def whole (r : Request) (name : String) (usual : Int) : Checked Int :=
  match r.address.parameter? name with
  | none => .passed usual
  | some s => ((Reader.whole (.str s)).within (.field name)).within (.field "query")

end Request

namespace Response

def broken : Response := ⟨500, .text "Internal Server Error", none⟩

def depthLimit : Nat := 256

def ok (j : Json) : Response :=
  if j.legible ∧ j.depth ≤ depthLimit then ⟨200, .json j.definite, none⟩ else broken

def detail (status : Int) (j : Json) : Response :=
  if j.legible then ⟨status, .json (.obj [("detail", j)]), none⟩ else broken

def notFound (message : String) : Response := detail 404 (.str message)

def wrongMethod : Response := detail 405 (.str "Method Not Allowed")

def unparsed : Response := detail 400 (.str "There was an error parsing the body")

def ofIssues (issues : List Issue) : Response :=
  if issues.all (fun i => i.subject.finite && i.subject.legible) then
    detail 422 (.arr (issues.map Issue.toJson))
  else broken

def ofRefusal (r : Refusal) : Response :=
  match r.retryAfter with
  | none => detail r.status r.body
  | some x => match x.round? with
      | some n => { detail r.status r.body with retryAfter := some (max 1 n) }
      | none => broken

def ofFault : Fault → Response
  | .refused r => ofRefusal r
  | _ => broken

def ofExcept {α : Type} (f : α → Json) : Except Fault α → Response
  | .ok a => ok (f a)
  | .error e => ofFault e

def silent (r : Response) : Response := { r with content := .text "" }

end Response

end Switchboard.Service
