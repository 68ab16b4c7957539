import Switchboard.Json

namespace Switchboard.Json

def hex4 (n : Nat) : List Char :=
  let ds := Nat.toDigits 16 n
  '\\' :: 'u' :: (List.replicate (4 - ds.length) '0' ++ ds)

def escaped (c : Char) : List Char :=
  if c = '"' ∨ c = '\\' then ['\\', c]
  else if ' ' ≤ c ∧ c ≤ '~' then [c]
  else if c.toNat < 0x10000 then hex4 c.toNat
  else match Text.half? c with
    | some n => hex4 n
    | none =>
        let n := c.toNat - 0x10000
        hex4 (0xD800 + n / 0x400) ++ hex4 (0xDC00 + n % 0x400)

def stringText (s : String) : String :=
  String.ofList ('"' :: (s.toList.flatMap escaped ++ ['"']))

def realText (x : Float) : String :=
  if Number.isFinite x then Number.realText x else stringText (Number.realText x)

mutual
def text : Json → String
  | .null => "null"
  | .bool true => "true"
  | .bool false => "false"
  | .whole n => Number.intText n
  | .real x => realText x
  | .str s => stringText s
  | .arr items => "[" ++ ",".intercalate (itemTexts items) ++ "]"
  | .obj members => "\x7b" ++ ",".intercalate (memberTexts members) ++ "\x7d"

def itemTexts : List Json → List String
  | [] => []
  | j :: rest => j.text :: itemTexts rest

def memberTexts : List (String × Json) → List String
  | [] => []
  | (k, j) :: rest => (stringText k ++ ":" ++ j.text) :: memberTexts rest
end

end Switchboard.Json
