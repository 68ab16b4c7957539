import Switchboard.Text.Surrogate
import Switchboard.Text.Utf8

namespace Switchboard.Text

inductive Encoding where
  | utf8
  | utf16 (bigEndian : Bool)
  | utf32 (bigEndian : Bool)
  deriving DecidableEq, Repr

namespace Encoding

def ofBytes : List Nat → Encoding
  | [0, _] => .utf16 true
  | [_, 0] => .utf16 false
  | a :: b :: c :: d :: _ =>
      if a = 0 then (if b = 0 then .utf32 true else .utf16 true)
      else if b = 0 then (if c = 0 ∧ d = 0 then .utf32 false else .utf16 false)
      else .utf8
  | _ => .utf8

end Encoding

def join (bigEndian : Bool) (a b : Nat) : Nat := if bigEndian then a * 256 + b else b * 256 + a

def words? (bigEndian : Bool) : List Nat → Option (List Nat)
  | [] => some []
  | a :: b :: rest => (words? bigEndian rest).map (join bigEndian a b :: ·)
  | [_] => none

def decodeUtf32? (bigEndian : Bool) : List Nat → Option (List Char)
  | [] => some []
  | a :: b :: rest =>
      let n := if bigEndian then a * 0x10000 + b else b * 0x10000 + a
      if n < 0x110000 then (decodeUtf32? bigEndian rest).map (ofUnit n :: ·) else none
  | [_] => none

def decodeUtf16 : List Nat → List Char
  | high :: low :: rest =>
      if isHigh high && isLow low then ofPair high low :: decodeUtf16 rest
      else ofUnit high :: decodeUtf16 (low :: rest)
  | [n] => [ofUnit n]
  | [] => []

def decode? (bytes : List Nat) : Option (List Char) :=
  match Encoding.ofBytes bytes with
  | .utf8 => some (decodeUtf8 bytes)
  | .utf16 big => (words? big bytes).map decodeUtf16
  | .utf32 big => (words? big bytes).bind (decodeUtf32? big)

end Switchboard.Text
