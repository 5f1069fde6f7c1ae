import ExchangeTap.Number.Binary64
import ExchangeTap.Text.Digits

/-! A numeral without fraction and exponent is an integer as long as it fits in 64 bits; every other
numeral is a double, made from the first digits that fit in 64 bits and a power of ten. -/

namespace ExchangeTap.Json

inductive Number where
  | integer (value : Int)
  | float (value : Binary64)
  deriving DecidableEq, Repr

/-- The parts of a numeral. `fraction` is empty when no point stands in the numeral. -/
structure Numeral where
  negative : Bool
  whole : List Char
  fraction : List Char
  power : Option (Bool × List Char)
  deriving DecidableEq, Repr

namespace Numeral

/-- Digits are taken up while the number stays below `bound`; the others are left. -/
def absorb (bound significand : Nat) : List Char → Nat × List Char
  | [] => (significand, [])
  | digit :: rest =>
    let next := significand * 10 + Digits.value digit
    if next < bound then absorb bound next rest else (significand, digit :: rest)

/-- A double times a power of ten, rounded at each step; none beyond the largest double. -/
def scaled (magnitude : Binary64) (exponent : Int) : Option Binary64 :=
  if 0 ≤ exponent then
    if exponent ≤ 308 then
      let product := magnitude.scaleUp (Binary64.powerOfTen exponent.toNat)
      if product.isFinite then some product else none
    else if magnitude.isZero then some magnitude
    else none
  else if -308 ≤ exponent then
    some (magnitude.scaleDown (Binary64.powerOfTen exponent.natAbs))
  else if magnitude.isZero then some magnitude
  else scaled (magnitude.scaleDown (Binary64.powerOfTen 308)) (exponent + 308)
termination_by exponent.natAbs
decreasing_by omega

def signed (negative : Bool) (magnitude : Binary64) : Number :=
  .float (if negative then magnitude.neg else magnitude)

def float (negative : Bool) (significand : Nat) (exponent : Int) : Option Number :=
  (scaled (Binary64.ofNat significand) exponent).map (signed negative)

def integer (negative : Bool) (significand : Nat) : Number :=
  if !negative then .integer significand
  else if 0 < significand ∧ significand ≤ 2 ^ 63 then .integer (-significand)
  else signed true (Binary64.ofNat significand)

def value (n : Numeral) : Option Number :=
  let (head, beyond) := absorb (2 ^ 64) 0 n.whole
  let (significand, unused) := absorb (2 ^ 64) head n.fraction
  let shift : Int := (beyond.length : Int) - ((n.fraction.length : Int) - (unused.length : Int))
  match n.power with
  | none =>
    if beyond.isEmpty && n.fraction.isEmpty then some (integer n.negative significand)
    else float n.negative significand shift
  | some (lower, digits) =>
    match absorb (2 ^ 31) 0 digits with
    | (power, []) => float n.negative significand (if lower then shift - power else shift + power)
    | (_, _ :: _) =>
      if significand ≠ 0 && !lower then none else some (signed n.negative Binary64.zero)

end Numeral

end ExchangeTap.Json
