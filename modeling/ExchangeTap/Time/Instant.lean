import ExchangeTap.Text.Digits
import ExchangeTap.Time.Calendar

/-! Instants in universal time, to the nanosecond. A leap second is the second before it with a
billion nanoseconds or more. -/

namespace ExchangeTap

structure Instant where
  /-- Seconds since 1 January 1970, leap seconds not counted. -/
  seconds : Int
  nanos : Nat
  deriving DecidableEq, Repr

namespace Instant

def second : Nat := 1000000000

def firstYear : Int := -262143

def lastYear : Int := 262142

/-- The instants that can be told: their year is in range, and a leap second ends a minute. -/
def Valid (t : Instant) : Prop :=
  firstYear ≤ (Date.ofDays (t.seconds / 86400)).year ∧
    (Date.ofDays (t.seconds / 86400)).year ≤ lastYear ∧
    (t.nanos < second ∨ t.nanos < 2 * second ∧ t.seconds % 60 = 59)

instance (t : Instant) : Decidable t.Valid :=
  inferInstanceAs (Decidable (_ ∧ _ ∧ (_ ∨ _ ∧ _)))

def ofMillis (millis : Nat) : Instant :=
  ⟨millis / 1000, millis % 1000 * 1000000⟩

inductive Fraction where
  /-- Three, six or nine digits, as few as needed, and none for a whole second. -/
  | needed
  /-- Always three digits, the rest cut off. -/
  | millis
  deriving DecidableEq, Repr

def Fraction.write (nanos : Nat) : Fraction → List Char
  | .needed =>
    if nanos = 0 then []
    else if nanos % 1000000 = 0 then '.' :: Digits.padded 3 (nanos / 1000000)
    else if nanos % 1000 = 0 then '.' :: Digits.padded 6 (nanos / 1000)
    else '.' :: Digits.padded 9 nanos
  | .millis => '.' :: Digits.padded 3 (nanos / 1000000)

def writeYear (year : Int) : List Char :=
  if 0 ≤ year ∧ year ≤ 9999 then Digits.padded 4 year.natAbs
  else (if year < 0 then '-' else '+') :: Digits.padded 4 year.natAbs

def writeChars (t : Instant) (fraction : Fraction) : List Char :=
  let date := Date.ofDays (t.seconds / 86400)
  let time := (t.seconds % 86400).toNat
  let leap := t.nanos / second
  writeYear date.year ++
    '-' :: Digits.padded 2 date.month.toNat ++
    '-' :: Digits.padded 2 date.day.toNat ++
    'T' :: Digits.padded 2 (time / 3600) ++
    ':' :: Digits.padded 2 (time / 60 % 60) ++
    ':' :: Digits.padded 2 (time % 60 + leap) ++
    fraction.write (t.nanos % second) ++ ['Z']

def write (t : Instant) (fraction : Fraction) : String :=
  String.ofList (t.writeChars fraction)

def word (n : Int) : Option Int :=
  if -(2 ^ 63) ≤ n ∧ n < 2 ^ 63 then some n else none

/-- The nanoseconds since 1 January 1970. Before 1970 they are counted back from the next second, and 64
bits must hold that second, too. -/
def unixNanos? (t : Instant) : Option Int :=
  let (seconds, nanos) : Int × Int :=
    if t.seconds < 0 then (t.seconds + 1, t.nanos - second) else (t.seconds, t.nanos)
  (word (seconds * second)).bind fun whole => word (whole + nanos)

end Instant

end ExchangeTap
