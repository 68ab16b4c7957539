import Switchboard.Validation.Issue

namespace Switchboard

inductive Checked (α : Type) where
  | passed (a : α)
  | failed (issues : List Issue)

namespace Checked

variable {α β : Type}

def map (f : α → β) : Checked α → Checked β
  | .passed a => .passed (f a)
  | .failed is => .failed is

def ap : Checked (α → β) → Checked α → Checked β
  | .passed f, c => c.map f
  | .failed is, .passed _ => .failed is
  | .failed is, .failed js => .failed (is ++ js)

instance : Applicative Checked where
  pure := .passed
  seq f c := f.ap (c ())

def refuse (complaint : Complaint) (subject : Json) : Checked α :=
  .failed [⟨[], complaint, subject⟩]

def andThen (c : Checked α) (f : α → Checked β) : Checked β :=
  match c with
  | .passed a => f a
  | .failed is => .failed is

def within (place : Place) : Checked α → Checked α
  | .passed a => .passed a
  | .failed is => .failed (is.map (fun i => { i with path := place :: i.path }))

def toExcept (model : String) : Checked α → Except Report α
  | .passed a => .ok a
  | .failed is => .error ⟨model, is⟩

end Checked

end Switchboard
