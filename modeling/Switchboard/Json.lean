import Switchboard.Number.Basic
import Switchboard.Number.Notation
import Switchboard.Text.Surrogate

namespace Switchboard

/-- An object keeps its members in the order of arrival; a whole number and a real one differ. -/
inductive Json where
  | null
  | bool (b : Bool)
  | whole (n : Int)
  | real (x : Float)
  | str (s : String)
  | arr (items : List Json)
  | obj (members : List (String × Json))

namespace Json

def get? (members : List (String × Json)) (key : String) : Option Json := members.lookup key

def setKey (key : String) (value : Json) : List (String × Json) → List (String × Json)
  | [] => [(key, value)]
  | (k, v) :: rest => if k = key then (k, value) :: rest else (k, v) :: setKey key value rest

def members : Json → List (String × Json)
  | .obj members => members
  | _ => []

def ofOption {α : Type} (f : α → Json) : Option α → Json
  | none => .null
  | some a => f a

def ofNumber : Number → Json
  | .whole n => .whole n
  | .real x => .real x

def ofNat (n : Nat) : Json := .whole n

def strings (l : List String) : Json := .arr (l.map .str)

mutual
def every (real : Float → Bool) (text : String → Bool) : Json → Bool
  | .real x => real x
  | .str s => text s
  | .arr items => everyItem real text items
  | .obj members => everyMember real text members
  | _ => true

def everyItem (real : Float → Bool) (text : String → Bool) : List Json → Bool
  | [] => true
  | j :: rest => j.every real text && everyItem real text rest

def everyMember (real : Float → Bool) (text : String → Bool) : List (String × Json) → Bool
  | [] => true
  | (k, j) :: rest => text k && j.every real text && everyMember real text rest
end

def legible (j : Json) : Bool := j.every (fun _ => true) Text.isWhole

def finite (j : Json) : Bool := j.every Number.isFinite (fun _ => true)

mutual
def depth : Json → Nat
  | .arr items => itemsDepth items + 1
  | .obj members => membersDepth members + 1
  | _ => 1

def itemsDepth : List Json → Nat
  | [] => 0
  | j :: rest => max j.depth (itemsDepth rest)

def membersDepth : List (String × Json) → Nat
  | [] => 0
  | (_, j) :: rest => max j.depth (membersDepth rest)
end

mutual
def definite : Json → Json
  | .real x => if Number.isFinite x then .real x else .null
  | .arr items => .arr (definiteItems items)
  | .obj members => .obj (definiteMembers members)
  | j => j

def definiteItems : List Json → List Json
  | [] => []
  | j :: rest => j.definite :: definiteItems rest

def definiteMembers : List (String × Json) → List (String × Json)
  | [] => []
  | (k, j) :: rest => (k, j.definite) :: definiteMembers rest
end

def truthy : Json → Bool
  | .null => false
  | .bool b => b
  | .whole n => n != 0
  | .real x => x != 0.0
  | .str s => s != ""
  | .arr items => !items.isEmpty
  | .obj members => !members.isEmpty

end Json

end Switchboard
