import Switchboard.Validation.Checked
import Switchboard.Number.Reading

namespace Switchboard

abbrev Reader (α : Type) := Json → Checked α

inductive Bound where
  | atLeast (n : Nat)
  | above (n : Nat)
  deriving DecidableEq, Repr

namespace Bound

def least : Bound → Nat
  | .atLeast n => n
  | .above n => n + 1

def complaint : Bound → Complaint
  | .atLeast n => .below n
  | .above n => .notAbove n

end Bound

namespace Reader

variable {α : Type}

def text : Reader String
  | .str s => .passed s
  | j => .refuse .text j

def spelled (f : String → Checked α) (s : String) : Checked α :=
  if Text.isWhole s then f s else .refuse .textUnreadable (.str s)

def nonempty : Reader String
  | .str s => spelled (fun s => if s = "" then .refuse .textTooShort (.str s) else .passed s) s
  | j => .refuse .text j

def wordHalf : Nat := Number.power 2 63

def fitsWord (n : Int) : Bool := -(wordHalf : Int) ≤ n && n < wordHalf

def wholeOf (x : Float) : Except Complaint Int :=
  match Number.Binary.ofFloat? x with
  | none => .error .notFinite
  | some b =>
      if b.isWhole then
        if b.trunc.natAbs < wordHalf then .ok b.trunc else .error .wholeTooLong
      else .error .fractional

def wholeComplaint : Number.Misread → Complaint
  | .malformed => .wholeUnreadable
  | .tooLong _ => .wholeTooLong

def whole : Reader Int
  | .whole n => .passed n
  | .bool b => .passed (if b then 1 else 0)
  | .real x => match wholeOf x with
      | .ok n => .passed n
      | .error complaint => .refuse complaint (.real x)
  | .str s => spelled (fun s => match Number.readWhole s with
      | .ok n => .passed n
      | .error e => .refuse (wholeComplaint e) (.str s)) s
  | j => .refuse .whole j

def natural (b : Bound) : Reader { n : Nat // b.least ≤ n } := fun j =>
  (whole j).andThen fun n =>
    if h : b.least ≤ n.toNat ∧ 0 ≤ n then .passed ⟨n.toNat, h.1⟩ else .refuse b.complaint j

def count : Reader Nat := fun j => (natural (.atLeast 0) j).map (·.1)

def real : Reader Float
  | .whole n => match Number.ofInt? n with
      | some x => .passed x
      | none => .refuse .real (.whole n)
  | .real x => .passed x
  | .bool b => .passed (if b then 1.0 else 0.0)
  | .str s => spelled (fun s => match Number.readReal? s with
      | some x => .passed x
      | none => .refuse .realUnreadable (.str s)) s
  | j => .refuse .real j

def amount : Reader Float := fun j =>
  (real j).andThen fun x => if x ≥ 0.0 then .passed x else .refuse (.below 0) j

def flagWord? (s : String) : Option Bool :=
  let w := String.ofList (Number.lowerAscii s.toList)
  if ["0", "off", "f", "false", "n", "no"].contains w then some false
  else if ["1", "on", "t", "true", "y", "yes"].contains w then some true
  else none

def flag : Reader Bool
  | .bool b => .passed b
  | .whole n =>
      if n = 0 then .passed false
      else if n = 1 then .passed true
      else .refuse (if fitsWord n then .flagUnreadable else .flag) (.whole n)
  | .real x =>
      if x == 0.0 then .passed false
      else if x == 1.0 then .passed true
      else .refuse (if (wholeOf x).toOption.isSome then .flagUnreadable else .flag) (.real x)
  | .str s => spelled (fun s => match flagWord? s with
      | some b => .passed b
      | none => .refuse .flagUnreadable (.str s)) s
  | j => .refuse .flag j

def itemsFrom (r : Reader α) : Nat → List Json → Checked (List α)
  | _, [] => .passed []
  | i, j :: rest => (List.cons <$> (r j).within (.item i)) <*> itemsFrom r (i + 1) rest

def listOf (r : Reader α) : Reader (List α)
  | .arr items => itemsFrom r 0 items
  | j => .refuse .list j

def texts : Reader (List String) := listOf text

def object : Reader (List (String × Json))
  | .obj members => .passed members
  | j => .refuse .object j

def optional (r : Reader α) : Reader (Option α)
  | .null => .passed none
  | j => (r j).map some

def required (members : List (String × Json)) (name : String) (r : Reader α) : Checked α :=
  (match Json.get? members name with
    | some j => r j
    | none => .refuse .missing (.obj members)).within (.field name)

def defaulted (members : List (String × Json)) (name : String) (r : Reader α) (a : α) :
    Checked α :=
  match Json.get? members name with
  | some j => (r j).within (.field name)
  | none => .passed a

def record (stranger : Complaint) (f : List (String × Json) → Checked α) : Reader α
  | .obj members => f members
  | j => .refuse stranger j

end Reader

end Switchboard
