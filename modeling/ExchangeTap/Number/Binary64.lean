/-! Double-precision floating point on bit patterns. All arithmetic is exact on natural numbers and
rounds once, to the nearest double and on a tie to the one with an even significand. -/

namespace ExchangeTap

-- a power means the same here and where a theory of monoids is imported
attribute [default_instance 20000, instance (20000)] instPowNat

structure Binary64 where
  bits : UInt64
  deriving DecidableEq, Repr, Inhabited

namespace Binary64

/-- What a bit pattern stands for; a finite number is `significand * 2 ^ exponent` under its sign. -/
inductive Class where
  | finite (significand : Nat) (exponent : Int)
  | infinite
  | notANumber
  deriving DecidableEq, Repr

def isNegative (x : Binary64) : Bool :=
  x.bits.toNat / 2 ^ 63 == 1

def classify (x : Binary64) : Class :=
  let exponent : Nat := x.bits.toNat / 2 ^ 52 % 2 ^ 11
  let fraction := x.bits.toNat % 2 ^ 52
  if exponent = 2047 then if fraction = 0 then .infinite else .notANumber
  else if exponent = 0 then .finite fraction (-1074)
  else .finite (fraction + 2 ^ 52) ((exponent : Int) - 1075)

def isFinite (x : Binary64) : Bool :=
  match x.classify with
  | .finite _ _ => true
  | _ => false

def isZero (x : Binary64) : Bool :=
  x.bits.toNat % 2 ^ 63 == 0

def zero : Binary64 := ⟨0⟩

def infinityBits : Nat := 2047 * 2 ^ 52

def infinity : Binary64 := ⟨infinityBits.toUInt64⟩

def neg (x : Binary64) : Binary64 :=
  ⟨x.bits ^^^ (2 ^ 63 : Nat).toUInt64⟩

/-- A quotient of natural numbers rounded to the nearest integer, a tie to the even one. -/
def roundDiv (num den : Nat) : Nat :=
  let quotient := num / den
  let twice := 2 * (num % den)
  if twice < den then quotient
  else if den < twice then quotient + 1
  else quotient + quotient % 2

def inUnits (num den : Nat) (exponent : Int) : Nat × Nat :=
  if exponent < 0 then (num * 2 ^ exponent.natAbs, den) else (num, den * 2 ^ exponent.natAbs)

/-- The bit pattern of the magnitude nearest to `num / den`, in a format of so many bits of precision
whose smallest magnitude is `2 ^ lowest`; `bound` is its pattern of infinity. -/
def nearest (precision : Nat) (lowest : Int) (bound num den : Nat) : Nat :=
  if num = 0 then 0 else
    let guess := max ((num.log2 : Int) - (den.log2 : Int) - precision) lowest
    let coarse := inUnits num den guess
    let exponent := if 2 ^ precision ≤ coarse.1 / coarse.2 then guess + 1 else guess
    let fine := inUnits num den exponent
    min bound ((exponent - lowest).toNat * 2 ^ (precision - 1) + roundDiv fine.1 fine.2)

def ofRatio (num den : Nat) : Binary64 :=
  ⟨(nearest 53 (-1074) infinityBits num den).toUInt64⟩

def ofNat (n : Nat) : Binary64 :=
  ofRatio n 1

def fraction (significand : Nat) (exponent : Int) : Nat × Nat :=
  if exponent < 0 then (significand, 2 ^ exponent.natAbs) else (significand * 2 ^ exponent.natAbs, 1)

def scaleUp (x y : Binary64) : Binary64 :=
  match x.classify, y.classify with
  | .finite m e, .finite n f =>
    let a := fraction m e
    let b := fraction n f
    ofRatio (a.1 * b.1) (a.2 * b.2)
  | _, _ => infinity

def scaleDown (x y : Binary64) : Binary64 :=
  match x.classify, y.classify with
  | .finite m e, .finite n f =>
    let a := fraction m e
    let b := fraction n f
    ofRatio (a.1 * b.2) (a.2 * b.1)
  | _, _ => infinity

def powerOfTen (exponent : Nat) : Binary64 :=
  ofNat (10 ^ exponent)

def ofSingleBits (bits : UInt32) : Binary64 :=
  let sign := bits.toNat / 2 ^ 31
  let exponent : Nat := bits.toNat / 2 ^ 23 % 2 ^ 8
  let fraction := bits.toNat % 2 ^ 23
  let magnitude : Nat :=
    if exponent = 255 then infinityBits + fraction * 2 ^ 29
    else if exponent = 0 then (ofRatio fraction (2 ^ 149)).bits.toNat
    else (exponent + 896) * 2 ^ 52 + fraction * 2 ^ 29
  ⟨(sign * 2 ^ 63 + magnitude).toUInt64⟩

def toSingleBits (x : Binary64) : UInt32 :=
  let sign := x.bits.toNat / 2 ^ 63
  let magnitude : Nat :=
    match x.classify with
    | .finite m e => nearest 24 (-149) (255 * 2 ^ 23) (fraction m e).1 (fraction m e).2
    | .infinite => 255 * 2 ^ 23
    | .notANumber => 255 * 2 ^ 23 + 2 ^ 22
  (sign * 2 ^ 31 + magnitude).toUInt32

end Binary64

end ExchangeTap
