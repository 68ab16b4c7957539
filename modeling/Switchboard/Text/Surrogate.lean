namespace Switchboard.Text

/-!
Surrogates without a partner. A `Char` cannot be one, so in a text each of them is kept as the
character of plane 13, where no characters are, with the same last four hexadecimal digits.
-/

def isHigh (n : Nat) : Bool := 0xD800 ≤ n && n < 0xDC00

def isLow (n : Nat) : Bool := 0xDC00 ≤ n && n < 0xE000

def ofPair (high low : Nat) : Char :=
  Char.ofNat (0x10000 + (high - 0xD800) * 0x400 + (low - 0xDC00))

def planeOfHalves : Nat := 0xD0000

def ofUnit (n : Nat) : Char :=
  Char.ofNat (if isHigh n || isLow n then planeOfHalves + n else n)

def half? (c : Char) : Option Nat :=
  let n := c.toNat - planeOfHalves
  if planeOfHalves ≤ c.toNat && (isHigh n || isLow n) then some n else none

def isWhole (s : String) : Bool := s.toList.all (fun c => (half? c).isNone)

end Switchboard.Text
