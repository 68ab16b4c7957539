import Switchboard.Json
import Switchboard.Roster

namespace Switchboard

structure Sighting where
  healthy : Bool
  checkedAt : Float
  error : Option String

namespace Sighting

def toJson (s : Sighting) : Json :=
  .obj [("healthy", .bool s.healthy), ("last_checked_at", .real s.checkedAt),
    ("last_error", Json.ofOption .str s.error)]

def staleSeconds : Float := 300.0

def seemsHealthy (s : Sighting) (now : Float) : Bool :=
  now - s.checkedAt > staleSeconds || s.healthy

end Sighting

abbrev Sightings := Roster Sighting

namespace Sightings

def markHealthy (s : Sightings) (id : String) (now : Float) : Sightings :=
  s.put id ⟨true, now, none⟩

def markUnhealthy (s : Sightings) (id : String) (error : String) (now : Float) : Sightings :=
  s.put id ⟨false, now, some error⟩

def seemsHealthy (s : Sightings) (id : String) (now : Float) : Bool :=
  match s.get? id with
  | none => true
  | some seen => seen.seemsHealthy now

def toJson (s : Sightings) : Json := .obj (s.entries.map (fun e => (e.1, e.2.toJson)))

end Sightings

end Switchboard
