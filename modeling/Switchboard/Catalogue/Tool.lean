import Switchboard.Settings
import Switchboard.Text.Alphanumeric

namespace Switchboard

abbrev Args := List (String × Json)

structure ArgForm where
  model : String
  fields : List String
  read : Reader Args

/-- A handler may answer with a value that is no text, of which only the kind is told. -/
inductive Outcome where
  | returned (output : String)
  | returnedOther (kind : String)
  | rejected (report : Report)
  | raised (kind message : String)

structure Reaction where
  outcome : Outcome
  health : Option Bool

structure Tool where
  name : String
  description : String
  form : ArgForm
  handler : Args → Reaction
  tags : List String

inductive HealthCheck where
  | absent
  | reports (healthy : Bool)
  | raises (message : String)
  deriving DecidableEq, Repr

structure Backend where
  id : String
  name : String
  tools : List Tool
  check : HealthCheck

namespace Args

def text (args : Args) (field : String) : String :=
  match args.lookup field with
  | some (.str s) => s
  | _ => ""

def flag (args : Args) (field : String) : Bool :=
  match args.lookup field with
  | some (.bool b) => b
  | _ => false

end Args

namespace Outcome

def blame (kind message : String) : String := if message = "" then kind else message

def quiet (o : Outcome) : Reaction := ⟨o, none⟩

def ofRecord? : String → Option Outcome
  | "model_extra" => some (.returnedOther "NoneType")
  | "model_fields_set" => some (.returnedOther "set")
  | _ => none

def ofField (form : ArgForm) (args : Args) (field : String) : Outcome :=
  match args.lookup field with
  | some (.str s) => .returned s
  | some _ => .returnedOther "bool"
  | none => (ofRecord? field).getD
      (.raised "AttributeError" ("'" ++ form.model ++ "' object has no attribute '" ++ field ++ "'"))

end Outcome

namespace Tool

def toJson (t : Tool) : Json :=
  .obj [("name", .str t.name), ("description", .str t.description), ("tags", Json.strings t.tags),
    ("schema", .str t.form.model)]

def exportedName (backend tool : String) : String :=
  String.ofList (backend.toList.map (fun c =>
    if Text.isAlphanumeric c || c = '_' || c = '-' then c else '_')) ++ "__" ++ tool

end Tool

namespace Backend

def model : String := "BackendSpec"

def tool? (b : Backend) (name : String) : Option Tool := b.tools.find? (fun t => t.name = name)

def validated (b : Backend) : Except Fault Backend :=
  (Settings.checked model ((Reader.nonempty (.str b.id)).within (.field "backend_id"))).map
    (fun _ => b)

def toJson (b : Backend) : Json :=
  .obj [("name", .str b.name), ("has_health", .bool (b.check ≠ .absent)),
    ("tools", .arr (b.tools.map Tool.toJson))]

end Backend

end Switchboard
