namespace Switchboard.Number

def power (base : Nat) (e : Int) : Nat := Nat.pow base e.toNat

structure Binary where
  negative : Bool
  mantissa : Nat
  exponent : Int
  deriving DecidableEq, Repr

/-- Rounds to the nearest integer; a half goes to the even neighbour. -/
def roundDiv (num den : Nat) : Nat :=
  let q := num / den
  match compare (2 * (num % den)) den with
  | .lt => q
  | .gt => q + 1
  | .eq => if q % 2 = 0 then q else q + 1

def infinity : Float := Float.ofBits 0x7FF0000000000000

def isFinite (x : Float) : Bool := (x.toBits >>> 52) &&& 0x7FF != 0x7FF

namespace Binary

def ofFloat? (x : Float) : Option Binary :=
  if isFinite x then
    let b := x.toBits
    let e := ((b >>> 52) &&& 0x7FF).toNat
    let f := (b &&& 0xFFFFFFFFFFFFF).toNat
    some ⟨b >>> 63 == 1, if e = 0 then f else power 2 52 + f, if e = 0 then -1074 else (e : Int) - 1075⟩
  else none

def signed (b : Binary) : Int := if b.negative then -(b.mantissa : Int) else b.mantissa

def compareInt (b : Binary) (n : Int) : Ordering :=
  compare (b.signed * power 2 b.exponent) (n * power 2 (-b.exponent))

def floor (b : Binary) : Int :=
  (b.signed * power 2 b.exponent).fdiv (power 2 (-b.exponent))

def trunc (b : Binary) : Int :=
  (b.signed * power 2 b.exponent).tdiv (power 2 (-b.exponent))

def isWhole (b : Binary) : Bool := b.mantissa % power 2 (-b.exponent) == 0

def round (b : Binary) : Int :=
  let n := roundDiv (b.mantissa * power 2 b.exponent) (power 2 (-b.exponent))
  if b.negative then -(n : Int) else n

def toFloat (b : Binary) : Float :=
  if b.mantissa = 0 then (if b.negative then -0.0 else 0.0)
  else
    let drop : Int := max ((b.mantissa.log2 : Int) - 52) (-1074 - b.exponent)
    let q :=
      if 0 ≤ drop then roundDiv b.mantissa (power 2 drop) else b.mantissa * power 2 (-drop)
    let bits := min ((b.exponent + drop + 1074).toNat * power 2 52 + q) 0x7FF0000000000000
    Float.ofBits (UInt64.ofNat (if b.negative then bits + power 2 63 else bits))

def fraction (b : Binary) : Float :=
  toFloat { b with mantissa := b.mantissa % power 2 (-b.exponent) }

end Binary

def ofInt? (n : Int) : Option Float :=
  let x := Binary.toFloat ⟨n < 0, n.natAbs, 0⟩
  if isFinite x then some x else none

/-- The double nearest to the quotient. Two bits below the last kept one, and one more that is set
when anything remains, decide every rounding. -/
def ofRatio (num : Int) (den : Nat) : Float :=
  let shift := den.log2 + 56 - num.natAbs.log2
  let scaled := num.natAbs * power 2 shift
  let sticky := if scaled % den = 0 then 0 else 1
  Binary.toFloat ⟨num < 0, 2 * (scaled / den) + sticky, -(shift : Int) - 1⟩

def leFloat (n : Int) (x : Float) : Bool :=
  match Binary.ofFloat? x with
  | some b => b.compareInt n != .lt
  | none => x > 0.0

end Switchboard.Number
