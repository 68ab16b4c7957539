namespace Switchboard.Number

/-- The functions of doubles whose last bits are the platform's own. -/
class Elementary where
  log : Float → Float
  pow : Float → Float → Float

namespace Elementary

instance native : Elementary := ⟨Float.log, Float.pow⟩

end Elementary

end Switchboard.Number
