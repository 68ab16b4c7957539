import Switchboard.AgentCall
import Switchboard.Discovery.Inquiry

namespace Switchboard

structure Form where
  model : String
  frozen : Bool
  read : Reader (List (String × Json))

namespace Form

def of {α : Type} (model : String) (frozen : Bool) (read : Reader α) (toJson : α → Json) : Form :=
  ⟨model, frozen, fun j => (read j).map (fun a => (toJson a).members)⟩

def ofArgs (f : ArgForm) : Form := ⟨f.model, false, f.read⟩

def all : List Form :=
  [of CircuitLimits.model false CircuitLimits.read CircuitLimits.toJson,
   of ProbePlan.model false ProbePlan.read ProbePlan.toJson,
   of SearchLimits.model false SearchLimits.read SearchLimits.toJson,
   of Settings.model false Settings.read Settings.toJson,
   of Budget.model true (Budget.read (.record Budget.model)) Budget.toJson,
   of Mandate.model true Mandate.read Mandate.toJson,
   of AgentRequest.model false
     (AgentRequest.read (.record AgentRequest.model) (.record Budget.model)) AgentRequest.toJson,
   of Discovery.Inquiry.model false
     (Discovery.Inquiry.read (.record Discovery.Inquiry.model)) Discovery.Inquiry.toJson,
   of AgentCall.model false (AgentCall.read (.record AgentCall.model)) AgentCall.toJson]
  ++ ArgForm.all.map ofArgs

def ofModel? (model : String) : Option Form := all.find? (fun f => f.model = model)

def members (f : Form) (data : Json) : Except Fault (List (String × Json)) :=
  Settings.checked f.model (f.read data)

def validate (f : Form) (data : Json) : Except Fault Json := (f.members data).map .obj

def fixedFields : List String := ["model_extra", "model_fields_set"]

def isPrivate (field : String) : Bool := field.toList.head? = some '_' && field != "__root__"

def set (f : Form) (data : Json) (field : String) (value : Json) : Except Fault Json := do
  let members ← f.members data
  if isPrivate field then
    if field = "__fields_set__" then .error (.fixedField f.model field) else .ok (.obj members)
  else if f.frozen then .error (.invalid ⟨f.model, [⟨[.field field], .frozen, value⟩]⟩)
  else if fixedFields.contains field then .error (.fixedField f.model field)
  else if (Json.get? members field).isNone then .error (.unknownField f.model field)
  else .ok (.obj (Json.setKey field value members))

end Form

end Switchboard
