import Switchboard.Number.Binary

namespace Switchboard

inductive Number where
  | whole (n : Int)
  | real (x : Float)

namespace Number

inductive Overflow where
  | operand
  | quotient
  | infinite
  | undefined
  deriving DecidableEq, Repr

def Overflow.message : Overflow → String
  | .operand => "int too large to convert to float"
  | .quotient => "integer division result too large for a float"
  | .infinite => "cannot convert float infinity to integer"
  | .undefined => "cannot convert float NaN to integer"

def toReal : Number → Except Overflow Float
  | .whole n => match ofInt? n with
      | some x => .ok x
      | none => .error .operand
  | .real x => .ok x

def add : Number → Number → Except Overflow Number
  | .whole m, .whole n => .ok (.whole (m + n))
  | a, b => do .ok (.real ((← a.toReal) + (← b.toReal)))

def divNat : Number → Nat → Except Overflow Float
  | .whole m, n =>
      let q := ofRatio m n
      if isFinite q then .ok q else .error .quotient
  | .real x, n => do .ok (x / (← (whole n).toReal))

def le : Number → Number → Bool
  | .whole m, .whole n => m ≤ n
  | .whole m, .real y => leFloat m y
  | .real x, .whole n => match Binary.ofFloat? x with
      | some b => b.compareInt n != .gt
      | none => x < 0.0
  | .real x, .real y => x ≤ y

def round? : Number → Option Int
  | .whole n => some n
  | .real x => (Binary.ofFloat? x).map Binary.round

end Number

def thousandth (scaled : Float) : Except Number.Overflow Float :=
  match Number.Binary.ofFloat? scaled with
  | some b => .ok (Number.ofRatio b.floor 1000)
  | none => .error (if scaled.isNaN then .undefined else .infinite)

def Number.roundThousandth : Number → Except Number.Overflow Float
  | .whole n => do thousandth ((← Number.toReal (.whole (n * 1000))) + 0.5)
  | .real x => thousandth (x * 1000.0 + 0.5)

end Switchboard
