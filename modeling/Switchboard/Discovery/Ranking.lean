import Switchboard.Discovery.Index

namespace Switchboard.Discovery

open Number (Elementary)

structure Hit where
  entry : Entry
  score : Float

def Hit.toJson (h : Hit) : Json := .obj (h.entry.members ++ [("score", .real h.score)])

def total (xs : List Float) : Float := xs.foldl (· + ·) 0.0

namespace Index

def queryWeights (i : Index) (query : String) : List (String × Float) :=
  (tally (tokenize query)).map (fun q => (q.1, Float.ofNat q.2 * i.weight q.1))

def queryNorm (ws : List (String × Float)) : Float :=
  Float.sqrt (total (ws.map (fun w => w.2 * w.2)))

def dot (i : Index) (ws : List (String × Float)) (d : Document) : Float :=
  total (ws.map (fun w => w.2 * Float.ofNat (occurrences d.counts w.1) * i.weight w.1))

section Elementary

variable [Elementary]

def documentNorm (i : Index) (d : Document) : Float :=
  Float.sqrt (total (d.counts.map (fun c => Elementary.pow (Float.ofNat c.2 * i.weight c.1) 2.0)))

def score? (i : Index) (ws : List (String × Float)) (d : Document) : Option Float :=
  if d.counts.isEmpty then none
  else
    let qn := queryNorm ws
    let dn := i.documentNorm d
    if qn == 0.0 || dn == 0.0 then none
    else
      let score := i.dot ws d / (qn * dn)
      if score > 0.0 then some score else none

def scored (i : Index) (query : String) : List (Entry × Float) :=
  let ws := i.queryWeights query
  if ws.isEmpty then []
  else i.documents.filterMap (fun d => (i.score? ws d).map (fun s => (d.entry, s)))

def ranking (i : Index) (query : String) : List (Entry × Float) :=
  (i.scored query).mergeSort (fun a b => decide (b.2 ≤ a.2))

end Elementary

def cut {α : Type} (top : Option Int) (l : List α) : List α :=
  match top with
  | none => l
  | some k => if 0 ≤ k then l.take k.toNat else l.take (l.length - k.natAbs)

def roundScore (x : Float) : Float := (thousandth (x * 1000.0 + 0.5)).toOption.getD x

def search [Elementary] (i : Index) (query : String) (top : Option Int) : List Hit :=
  (cut top (i.ranking query)).map (fun r => ⟨r.1, roundScore r.2⟩)

end Index

end Switchboard.Discovery
