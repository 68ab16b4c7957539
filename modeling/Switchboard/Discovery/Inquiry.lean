import Switchboard.Discovery.Ranking
import Switchboard.Scope
import Switchboard.Settings

namespace Switchboard.Discovery

structure Inquiry where
  query : String
  top : Option { n : Nat // 1 ≤ n }
  scopes : Option (List String)

namespace Inquiry

def model : String := "DiscoverRequest"

def read (stranger : Complaint) : Reader Inquiry :=
  .record stranger fun m =>
    Inquiry.mk
      <$> Reader.required m "query" .nonempty
      <*> Reader.defaulted m "top_k" (.optional (.natural (.atLeast 1))) none
      <*> Reader.defaulted m "scopes" (.optional .texts) none

def toJson (q : Inquiry) : Json :=
  .obj [("query", .str q.query), ("top_k", Json.ofOption (fun n => .ofNat n.1) q.top),
    ("scopes", Json.ofOption Json.strings q.scopes)]

def limit (q : Inquiry) (limits : SearchLimits) : Nat :=
  min ((q.top.map (·.1)).getD limits.usual) limits.most

def allows (q : Inquiry) (e : Entry) : Bool := Scope.permits q.scopes e.backend e.tool

end Inquiry

def Index.discover [Number.Elementary] (i : Index) (limits : SearchLimits) (q : Inquiry) : List Hit :=
  (i.search q.query (some (q.limit limits : Nat))).filter (fun h => q.allows h.entry)

end Switchboard.Discovery
