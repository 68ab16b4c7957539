import Switchboard.Number.Binary

namespace Switchboard.Number

structure Decimal where
  digits : Nat
  exponent : Int
  deriving DecidableEq, Repr

namespace Binary

def compareScaled (a : Nat) (i : Int) (n : Nat) (j : Int) : Ordering :=
  compare (a * power 10 i * power 2 (-j)) (n * power 2 j * power 10 (-i))

/-- Below a power of two the gap to the next double is half as wide. -/
def narrowBelow (b : Binary) : Bool := b.mantissa == power 2 52 && b.exponent > -1074

def readsBack (b : Binary) (d : Decimal) : Bool :=
  let low := if b.narrowBelow then 4 * b.mantissa - 1 else 4 * b.mantissa - 2
  let closed := b.mantissa % 2 == 0
  let atLow := compareScaled d.digits d.exponent low (b.exponent - 2)
  let atHigh := compareScaled d.digits d.exponent (4 * b.mantissa + 2) (b.exponent - 2)
  (atLow == .gt || (closed && atLow == .eq)) && (atHigh == .lt || (closed && atHigh == .eq))

def scaleFrom (b : Binary) : Nat → Int → Int
  | 0, k => k
  | fuel + 1, k =>
      if compareScaled 1 k b.mantissa b.exponent == .gt then k else scaleFrom b fuel (k + 1)

def scale (b : Binary) : Int :=
  b.scaleFrom 8 (((b.mantissa.log2 : Int) + b.exponent) * 30103 / 100000 - 1)

/-- The neighbour of the value that reads back on the grid of `n` digits; of two the nearer, and
of two equally near the even one. -/
def onGrid? (b : Binary) (k : Int) (n : Nat) : Option Decimal :=
  let i := k - n
  let num := b.mantissa * power 2 b.exponent * power 10 (-i)
  let den := power 2 (-b.exponent) * power 10 i
  let near := roundDiv num den
  let far := if near = num / den then near + 1 else num / den
  if b.readsBack ⟨near, i⟩ then some ⟨near, i⟩
  else if b.readsBack ⟨far, i⟩ then some ⟨far, i⟩
  else none

def exact (b : Binary) : Decimal :=
  ⟨b.mantissa * power 2 b.exponent * power 5 (-b.exponent), min b.exponent 0⟩

def shortest (b : Binary) : Decimal :=
  let k := b.scale
  ((List.range 17).findSome? (fun n => b.onGrid? k (n + 1))).getD b.exact

end Binary

end Switchboard.Number
