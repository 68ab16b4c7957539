import Switchboard.Discovery.Token
import Switchboard.Json
import Switchboard.Notice
import Switchboard.Number.Elementary

namespace Switchboard.Discovery

open Number (Elementary)

structure Entry where
  backend : String
  backendName : String
  tool : String
  description : String
  deriving DecidableEq, Repr

namespace Entry

def members (e : Entry) : List (String × Json) :=
  [("backend_id", .str e.backend), ("backend_name", .str e.backendName),
    ("tool_name", .str e.tool), ("description", .str e.description)]

def toJson (e : Entry) : Json := .obj e.members

def tokens (e : Entry) : List String := tokenize (e.tool ++ " " ++ e.description)

end Entry

structure Document where
  entry : Entry
  counts : List (String × Nat)

def Document.ofEntry (e : Entry) : Document := ⟨e, tally e.tokens⟩

def Document.terms (d : Document) : List String := d.counts.map Prod.fst

/-- `frequencies` has the number of documents that hold a term, and `weights` its rarity. -/
structure Index where
  documents : List Document
  frequencies : List (String × Nat)
  weights : List (String × Float)

namespace Index

def empty : Index := ⟨[], [], []⟩

def size (i : Index) : Nat := i.documents.length

def frequenciesOf (ds : List Document) : List (String × Nat) := tally (ds.flatMap Document.terms)

def rarity [Elementary] (total frequency : Nat) : Float :=
  Elementary.log (Float.ofNat total / Float.ofNat frequency)

def build [Elementary] (entries : List Entry) : Index :=
  let documents := entries.map Document.ofEntry
  let frequencies := frequenciesOf documents
  ⟨documents, frequencies, frequencies.map (fun f => (f.1, rarity documents.length f.2))⟩

def notice (i : Index) : Notice := .indexed i.size i.weights.length

def weight (i : Index) (term : String) : Float := (i.weights.lookup term).getD 0.0

end Index

end Switchboard.Discovery
