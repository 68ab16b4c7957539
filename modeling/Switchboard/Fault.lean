import Switchboard.Number.Reading
import Switchboard.Refusal
import Switchboard.Validation.Issue
import Switchboard.Text.Quoted

namespace Switchboard

inductive Fault where
  | invalid (report : Report)
  | refused (refusal : Refusal)
  | overflow (cause : Number.Overflow)
  | dateOutOfRange
  | tooManyDays (days : Int)
  | dayCountTooWide
  | backendExists (id : String)
  | duplicateTools (backend : String)
  | identityExists (id : String)
  | unknownTrace (id : String)
  | unknownField (model field : String)
  | fixedField (model field : String)
  | unreadableInt (text : String)
  | tooManyDigits (count : Nat)
  | unknownLevel (text : String)
  | unknownKind (text : String)
  | negativeCapacity
  | capacityTooWide
  | uncuttable (kind : String)
  | healthCheckFailed (message : String)
  | cancelled

namespace Fault

def message : Fault → String
  | .invalid report => report.text
  | .refused refusal => refusal.message
  | .overflow cause => cause.message
  | .dateOutOfRange => "date value out of range"
  | .tooManyDays days =>
      "days=" ++ Number.intText days ++ "; must have magnitude <= 999999999"
  | .dayCountTooWide => "Python int too large to convert to C int"
  | .backendExists id => "Backend already registered: " ++ id
  | .duplicateTools backend => "Duplicate tool names on backend: " ++ backend
  | .identityExists id => "Identity already exists: " ++ id
  | .unknownTrace id => Text.quoted ("Trace not found: " ++ id)
  | .unknownField model field => "\"" ++ model ++ "\" object has no field \"" ++ field ++ "\""
  | .fixedField model field =>
      "property '" ++ field ++ "' of '" ++ model ++ "' object has no setter"
  | .unreadableInt text =>
      "invalid literal for int() with base 10: "
        ++ String.ofList ((Text.quoted text).toList.take 200)
  | .tooManyDigits count =>
      "Exceeds the limit (" ++ Number.intText Number.digitLimit
        ++ " digits) for integer string conversion: value has " ++ Number.intText count
        ++ " digits; use sys.set_int_max_str_digits() to increase the limit"
  | .unknownLevel text => "Unknown level: " ++ Text.quoted text
  | .unknownKind text => Text.quoted text ++ " is not a valid ErrorKind"
  | .negativeCapacity => "maxlen must be non-negative"
  | .capacityTooWide => "Python int too large to convert to C ssize_t"
  | .uncuttable kind => "'" ++ kind ++ "' object is not subscriptable"
  | .healthCheckFailed message => message
  | .cancelled => ""

end Fault

end Switchboard
