import Switchboard.Fault
import Switchboard.Number.Notation

namespace Switchboard

/-- Microseconds since the first midnight of the year 1. -/
structure Instant where
  micros : Nat
  deriving DecidableEq, Repr

structure CalendarDay where
  year : Nat
  month : Nat
  day : Nat
  deriving DecidableEq, Repr

def microsPerSecond : Nat := 1000000

def microsPerHour : Nat := 3600 * microsPerSecond

def microsPerDay : Nat := 24 * microsPerHour

namespace CalendarDay

/-- Years are counted from March, so that a leap day is the last of its year. -/
def ofDays (days : Nat) : CalendarDay :=
  let z := days + 306
  let era := z / 146097
  let doe := z % 146097
  let yoe := (doe - doe / 1460 + doe / 36524 - doe / 146096) / 365
  let doy := doe - (365 * yoe + yoe / 4 - yoe / 100)
  let mp := (5 * doy + 2) / 153
  let month := if mp < 10 then mp + 3 else mp - 9
  ⟨yoe + era * 400 + (if month ≤ 2 then 1 else 0), month, doy - (153 * mp + 2) / 5 + 1⟩

end CalendarDay

namespace Instant

def dayCount : Nat := 3652059

/-- Noon of 15 January 2024. -/
def epoch : Instant := ⟨738899 * microsPerDay + 12 * microsPerHour⟩

def text (i : Instant) : String :=
  let day := CalendarDay.ofDays (i.micros / microsPerDay)
  let rest := i.micros % microsPerDay
  let seconds := rest / microsPerSecond
  let micros := rest % microsPerSecond
  String.ofList (Number.pad 4 day.year ++ '-' :: Number.pad 2 day.month ++ '-' :: Number.pad 2 day.day
    ++ 'T' :: Number.pad 2 (seconds / 3600) ++ ':' :: Number.pad 2 (seconds / 60 % 60)
    ++ ':' :: Number.pad 2 (seconds % 60)
    ++ (if micros = 0 then [] else '.' :: Number.pad 6 micros) ++ "+00:00".toList)

def shift (i : Instant) (span : Int) : Except Fault Instant :=
  let moved := (i.micros : Int) + span
  if 0 ≤ moved ∧ moved < (dayCount * microsPerDay : Nat) then .ok ⟨moved.toNat⟩
  else .error .dateOutOfRange

end Instant

namespace Span

/-- One more microsecond, away from zero, when that is nearer or, at a half, makes the sum even. -/
def carry (sum : Int) (b : Number.Binary) : Int :=
  let den := Number.power 2 (-b.exponent)
  let up := match compare (2 * (b.mantissa % den)) den with
    | .lt => false
    | .gt => true
    | .eq => sum % 2 = 1
  if up then (if b.negative then -1 else 1) else 0

def checkDays (micros : Int) : Except Fault Int :=
  let days := micros.fdiv microsPerDay
  let bound : Int := Number.power 2 31
  if days < -bound ∨ bound ≤ days then .error .dayCountTooWide
  else if days.natAbs > 999999999 then .error (.tooManyDays days)
  else .ok micros

/-- A number of units in microseconds. The fraction of a unit is scaled as a double, and what is
then left of a microsecond is rounded, a half to the even sum. -/
def ofUnits (unit : Nat) : Number → Except Fault Int
  | .whole n => checkDays (n * unit)
  | .real x => match Number.Binary.ofFloat? x with
      | none => .error (.overflow (if x.isNaN then .undefined else .infinite))
      | some b =>
          let scaled := Number.ofRatio unit 1 * b.fraction
          match Number.Binary.ofFloat? scaled with
          | none => .error (.overflow .infinite)
          | some s =>
              let sum := b.trunc * unit + s.trunc
              checkDays (sum + carry sum s)

def ofHours (x : Float) : Except Fault Int := ofUnits microsPerHour (.real x)

def ofSeconds (x : Number) : Except Fault Int := ofUnits microsPerSecond x

end Span

end Switchboard
