import Switchboard.Json

namespace Switchboard

inductive Place where
  | field (name : String)
  | item (index : Nat)
  deriving DecidableEq, Repr

namespace Place

def text : Place → String
  | .field name => name
  | .item index => Number.intText index

def toJson : Place → Json
  | .field name => .str name
  | .item index => .ofNat index

end Place

inductive Complaint where
  | missing
  | text
  | textUnreadable
  | textTooShort
  | whole
  | wholeUnreadable
  | wholeTooLong
  | fractional
  | notFinite
  | real
  | realUnreadable
  | flag
  | flagUnreadable
  | list
  | object
  | record (model : String)
  | attributes
  | below (least : Nat)
  | notAbove (floor : Nat)
  | frozen
  | malformed
  deriving DecidableEq, Repr

namespace Complaint

def code : Complaint → String
  | .missing => "missing"
  | .text => "string_type"
  | .textUnreadable => "string_unicode"
  | .textTooShort => "string_too_short"
  | .whole => "int_type"
  | .wholeUnreadable => "int_parsing"
  | .wholeTooLong => "int_parsing_size"
  | .fractional => "int_from_float"
  | .notFinite => "finite_number"
  | .real => "float_type"
  | .realUnreadable => "float_parsing"
  | .flag => "bool_type"
  | .flagUnreadable => "bool_parsing"
  | .list => "list_type"
  | .object => "dict_type"
  | .record _ => "model_type"
  | .attributes => "model_attributes_type"
  | .below _ => "greater_than_equal"
  | .notAbove _ => "greater_than"
  | .frozen => "frozen_instance"
  | .malformed => "json_invalid"

def message : Complaint → String
  | .missing => "Field required"
  | .text => "Input should be a valid string"
  | .textUnreadable =>
      "Input should be a valid string, unable to parse raw data as a unicode string"
  | .textTooShort => "String should have at least 1 character"
  | .whole => "Input should be a valid integer"
  | .wholeUnreadable => "Input should be a valid integer, unable to parse string as an integer"
  | .wholeTooLong => "Unable to parse input string as an integer, exceeded maximum size"
  | .fractional => "Input should be a valid integer, got a number with a fractional part"
  | .notFinite => "Input should be a finite number"
  | .real => "Input should be a valid number"
  | .realUnreadable => "Input should be a valid number, unable to parse string as a number"
  | .flag => "Input should be a valid boolean"
  | .flagUnreadable => "Input should be a valid boolean, unable to interpret input"
  | .list => "Input should be a valid list"
  | .object => "Input should be a valid dictionary"
  | .record model => "Input should be a valid dictionary or instance of " ++ model
  | .attributes => "Input should be a valid dictionary or object to extract fields from"
  | .below least => "Input should be greater than or equal to " ++ Number.intText least
  | .notAbove floor => "Input should be greater than " ++ Number.intText floor
  | .frozen => "Instance is frozen"
  | .malformed => "JSON decode error"

end Complaint

structure Issue where
  path : List Place
  complaint : Complaint
  subject : Json

structure Report where
  model : String
  issues : List Issue

namespace Issue

def toJson (i : Issue) : Json :=
  .obj [("loc", .arr (i.path.map Place.toJson)), ("type", .str i.complaint.code),
    ("msg", .str i.complaint.message)]

def lines (i : Issue) : List String :=
  let body := "  " ++ i.complaint.message ++ " [type=" ++ i.complaint.code ++ "]"
  if i.path.isEmpty then [body] else [".".intercalate (i.path.map Place.text), body]

end Issue

namespace Report

def headline (r : Report) : String :=
  Number.intText r.issues.length ++ " validation error" ++ (if r.issues.length = 1 then "" else "s")
    ++ " for " ++ r.model

def text (r : Report) : String :=
  "\n".intercalate (r.headline :: r.issues.flatMap Issue.lines)

end Report

end Switchboard
