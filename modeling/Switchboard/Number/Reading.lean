import Switchboard.Number.Binary
import Switchboard.Text.Blank
import Switchboard.Text.DecimalDigit

namespace Switchboard.Number

/-- The double nearest to `m * 10 ^ e`. -/
def ofDecimal (m : Nat) (e : Int) : Float :=
  let size := e + (Nat.toDigits 10 m).length
  if m = 0 ∨ size < -330 then 0.0
  else if size > 330 then infinity
  else if 0 ≤ e then ofRatio (m * power 10 e) 1
  else ofRatio m (power 10 (-e))

inductive Misread where
  | malformed
  | tooLong (digits : Nat)
  deriving DecidableEq, Repr

def digitLimit : Nat := 4300

/-- Digits with single underscores between them: their value, their count and what follows. The
flag says that a digit came last. -/
def grouped (digit : Char → Option Nat) :
    Nat → Nat → Bool → List Char → Option (Nat × Nat × List Char)
  | n, count, last, [] => if last then some (n, count, []) else none
  | n, count, last, c :: cs =>
      match digit c with
      | some d => grouped digit (n * 10 + d) (count + 1) true cs
      | none =>
          if !last then none
          else if c = '_' then grouped digit n count false cs
          else some (n, count, c :: cs)

def splitSign : List Char → Bool × List Char
  | '-' :: cs => (true, cs)
  | '+' :: cs => (false, cs)
  | cs => (false, cs)

def signedInt (negative : Bool) (n : Nat) : Int := if negative then -(n : Int) else n

/-- Decimal digits of any script, with surrounding white space and a sign. Too many digits are
refused before anything behind them is looked at. -/
def readInt (s : String) : Except Misread Int :=
  let (negative, cs) := splitSign (Text.trim s.toList)
  match grouped Text.decimalDigit? 0 0 false cs with
  | none => .error .malformed
  | some (n, count, rest) =>
      if digitLimit < count then .error (.tooLong count)
      else if rest = [] then .ok (signedInt negative n)
      else .error .malformed

def digitsValue (cs : List Char) : Nat :=
  cs.foldl (fun n c => n * 10 + (Text.asciiDigit? c).getD 0) 0

def isDigit (c : Char) : Bool := (Text.asciiDigit? c).isSome

def readExponent? : List Char → Option Int
  | [] => some 0
  | c :: cs =>
      let (negative, ds) := splitSign cs
      if (c = 'e' ∨ c = 'E') ∧ ds ≠ [] ∧ ds.all isDigit then
        some (signedInt negative (digitsValue ds))
      else none

def readUnsigned? (cs : List Char) : Option Float :=
  let whole := cs.takeWhile isDigit
  let rest := cs.dropWhile isDigit
  let (behind, rest) := match rest with
    | '.' :: r => (r.takeWhile isDigit, r.dropWhile isDigit)
    | r => ([], r)
  if whole = [] ∧ behind = [] then none
  else
    (readExponent? rest).map fun e =>
      ofDecimal (digitsValue (whole ++ behind)) (e - behind.length)

def dropUnderscores? : List Char → Option (List Char)
  | [] => some []
  | ['_'] => none
  | '_' :: '_' :: _ => none
  | c :: cs => (dropUnderscores? cs).map (fun r => if c = '_' then r else c :: r)

def ungrouped? : List Char → Option (List Char)
  | '_' :: _ => none
  | cs => dropUnderscores? cs

/-- What follows zeros and the underscores among them, given the last of these. A point keeps one
of them before it, and of zeros alone the last one stays. -/
def pastZeros? (last : Char) : List Char → Option (List Char)
  | [] => some [last]
  | c :: cs =>
      if c = '0' ∨ c = '_' then pastZeros? c cs
      else if c = '.' then some (last :: c :: cs)
      else if c = '-' ∨ isDigit c then some (c :: cs)
      else none

def withoutZeros? : List Char → Option (List Char)
  | '0' :: cs => pastZeros? '0' cs
  | c :: cs => if isDigit c then some (c :: cs) else none
  | [] => none

def withoutFraction (cs : List Char) : List Char :=
  let behind := (cs.dropWhile (· ≠ '.')).drop 1
  if behind ≠ [] ∧ behind.all (· = '0') then cs.takeWhile (· ≠ '.') else cs

def readDigits (negative : Bool) (cs : List Char) : Except Misread Int :=
  let run := cs.takeWhile isDigit
  let size := run.length + (if negative then 1 else 0)
  if cs = ['0'] then .ok 0
  else if run = [] ∨ run.head? = some '0' then .error .malformed
  else if digitLimit < size then .error (.tooLong size)
  else if run = cs then .ok (signedInt negative (digitsValue cs))
  else .error .malformed

/-- ASCII digits, with surrounding white space, a sign, and a point with zeros only behind it.
Behind zeros at the front the sign may come late. -/
def readWhole (s : String) : Except Misread Int :=
  let (negative, cs) := splitSign (Text.trim s.toList)
  match ((withoutZeros? cs).map withoutFraction).bind ungrouped? with
  | none => .error .malformed
  | some ('-' :: cs) => if negative then .error .malformed else readDigits true cs
  | some cs => readDigits negative cs

def lowerAscii (cs : List Char) : List Char := cs.map Char.toLower

def readSigned? (cs : List Char) : Option Float :=
  let (negative, cs) := splitSign cs
  let value :=
    if lowerAscii cs = "inf".toList ∨ lowerAscii cs = "infinity".toList then some infinity
    else if lowerAscii cs = "nan".toList then some (0.0 / 0.0)
    else readUnsigned? cs
  value.map (fun x => if negative then -x else x)

/-- White space may surround the text, or underscores may stand in it, but not both. -/
def readReal? (s : String) : Option Float :=
  (readSigned? (Text.trim s.toList)).or ((ungrouped? s.toList).bind readSigned?)

end Switchboard.Number
