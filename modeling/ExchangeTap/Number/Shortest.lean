import ExchangeTap.Number.Binary64
import ExchangeTap.Text.Digits

/-! The shortest decimal text of a double: as few digits as read back to the same double, and of
those the nearest ones. -/

namespace ExchangeTap.Binary64

structure Decimal where
  digits : Nat
  exponent : Int
  deriving DecidableEq, Repr

def inTens (ratio : Nat × Nat) (exponent : Int) : Nat × Nat :=
  if exponent < 0 then (ratio.1 * 10 ^ exponent.natAbs, ratio.2)
  else (ratio.1, ratio.2 * 10 ^ exponent.natAbs)

def leadingExponent (ratio : Nat × Nat) : Int :=
  if ratio.2 ≤ ratio.1 then ((Digits.write (ratio.1 / ratio.2)).length : Int) - 1
  else -((Digits.write ((ratio.2 + ratio.1 - 1) / ratio.1 - 1)).length : Int)

/-- The reals that round to a given magnitude lie between two midpoints, which belong to them iff
the significand is even. -/
structure Interval where
  low : Nat × Nat
  high : Nat × Nat
  closed : Bool

def interval (significand : Nat) (exponent : Int) : Interval :=
  let low :=
    if significand = 2 ^ 52 ∧ exponent ≠ -1074 then
      fraction (4 * significand - 1) (exponent - 2)
    else fraction (2 * significand - 1) (exponent - 1)
  ⟨low, fraction (2 * significand + 1) (exponent - 1), significand % 2 == 0⟩

def ratioLt (x y : Nat × Nat) : Bool :=
  x.1 * y.2 < y.1 * x.2

def Interval.contains (i : Interval) (x : Nat × Nat) : Bool :=
  (ratioLt i.low x || (i.closed && !ratioLt x i.low)) &&
    (ratioLt x i.high || (i.closed && !ratioLt i.high x))

/-- The grid point of spacing `10 ^ exponent` nearest to the value, if one rounds to it; halfway
between two, the even one. -/
def onGrid (i : Interval) (value : Nat × Nat) (exponent : Int) : Option Nat :=
  let units := inTens value exponent
  let below := units.1 / units.2
  let point (n : Nat) : Nat × Nat :=
    if exponent < 0 then (n, 10 ^ exponent.natAbs) else (n * 10 ^ exponent.natAbs, 1)
  let twice := 2 * (units.1 % units.2)
  let nearBelow := twice < units.2 || (twice == units.2 && below % 2 == 0)
  match i.contains (point below), i.contains (point (below + 1)) with
  | true, true => some (if nearBelow then below else below + 1)
  | true, false => some below
  | false, true => some (below + 1)
  | false, false => none

def shortestFrom (i : Interval) (value : Nat × Nat) (exponent : Int) : Nat → Decimal
  | 0 => ⟨(inTens value exponent).1 / (inTens value exponent).2, exponent⟩
  | more + 1 =>
    match onGrid i value exponent with
    | some digits => ⟨digits, exponent⟩
    | none => shortestFrom i value (exponent - 1) more

/-- Seventeen digits always suffice. -/
def shortest (significand : Nat) (exponent : Int) : Decimal :=
  let value := fraction significand exponent
  shortestFrom (interval significand exponent) value (leadingExponent value) 17

def trimZeros (digits : List Char) : List Char :=
  (digits.reverse.dropWhile (· == '0')).reverse

def layout (digits : List Char) (lead : Int) : List Char :=
  if 0 ≤ lead ∧ lead < 16 then
    let whole := lead.toNat + 1
    if digits.length ≤ whole then
      digits ++ List.replicate (whole - digits.length) '0' ++ ['.', '0']
    else digits.take whole ++ '.' :: digits.drop whole
  else if -5 ≤ lead ∧ lead < 0 then
    '0' :: '.' :: List.replicate ((-lead).toNat - 1) '0' ++ digits
  else
    let mark := if lead < 0 then ['e', '-'] else ['e', '+']
    (match digits with
      | [] => []
      | [d] => [d]
      | d :: rest => d :: '.' :: rest) ++ mark ++ Digits.write lead.natAbs

def write (x : Binary64) : List Char :=
  let magnitude :=
    match x.classify with
    | .finite 0 _ => ['0', '.', '0']
    | .finite significand exponent =>
      let decimal := shortest significand exponent
      let digits := Digits.write decimal.digits
      layout (trimZeros digits) (decimal.exponent + (digits.length : Int) - 1)
    | .infinite => ['i', 'n', 'f']
    | .notANumber => ['N', 'a', 'N']
  if x.isNegative then '-' :: magnitude else magnitude

end ExchangeTap.Binary64
