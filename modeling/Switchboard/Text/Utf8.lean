namespace Switchboard.Text

/-- What a first byte gives: its own bits, how many bytes follow, and the range of the next one. -/
structure Lead where
  bits : Nat
  more : Nat
  low : Nat
  high : Nat

def lead? (b : Nat) : Option Lead :=
  if b < 0x80 then some ⟨b, 0, 0x80, 0xBF⟩
  else if b < 0xC2 then none
  else if b < 0xE0 then some ⟨b - 0xC0, 1, 0x80, 0xBF⟩
  else if b < 0xF0 then
    some ⟨b - 0xE0, 2, if b = 0xE0 then 0xA0 else 0x80, if b = 0xED then 0x9F else 0xBF⟩
  else if b < 0xF5 then
    some ⟨b - 0xF0, 3, if b = 0xF0 then 0x90 else 0x80, if b = 0xF4 then 0x8F else 0xBF⟩
  else none

def trail : Nat → Nat → Nat → List Nat → List Nat
  | more + 1, low, high, b :: bs =>
      if low ≤ b ∧ b ≤ high then b :: trail more 0x80 0xBF bs else []
  | _, _, _, _ => []

def Lead.char (l : Lead) (bs : List Nat) : Char :=
  Char.ofNat (bs.foldl (fun n b => n * 64 + (b - 0x80)) l.bits)

def decodeUtf8 : List Nat → List Char
  | [] => []
  | b :: bs => match lead? b with
      | none => '\uFFFD' :: decodeUtf8 bs
      | some l =>
          let t := trail l.more l.low l.high bs
          (if t.length = l.more then l.char t else '\uFFFD') :: decodeUtf8 (bs.drop t.length)
termination_by bs => bs.length
decreasing_by
  all_goals simp only [List.length_cons, List.length_drop]
  all_goals omega

def encodeUtf8 (c : Char) : List Nat := (String.utf8EncodeChar c).map UInt8.toNat

end Switchboard.Text
