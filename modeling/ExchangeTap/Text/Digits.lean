namespace ExchangeTap.Digits

def char (d : Nat) : Char :=
  Char.ofNat (48 + d)

def value (c : Char) : Nat :=
  c.toNat - 48

def write (n : Nat) : List Char :=
  if n < 10 then [char n] else write (n / 10) ++ [char (n % 10)]
termination_by n

/-- The number that a run of digits denotes, after those already read. -/
def read (start : Nat) (digits : List Char) : Nat :=
  digits.foldl (fun n c => n * 10 + value c) start

def padded (width n : Nat) : List Char :=
  let digits := write n
  List.replicate (width - digits.length) '0' ++ digits

def text (n : Nat) : String :=
  String.ofList (write n)

def integer (n : Int) : List Char :=
  if n < 0 then '-' :: write n.natAbs else write n.natAbs

def integerText (n : Int) : String :=
  String.ofList (integer n)

def valueIn? (base : Nat) (c : Char) : Option Nat :=
  let n := c.toNat
  let value :=
    if 48 ≤ n ∧ n ≤ 57 then n - 48
    else if 65 ≤ n ∧ n ≤ 90 then n - 55
    else if 97 ≤ n ∧ n ≤ 122 then n - 87
    else 36
  if value < base then some value else none

def readIn? (base : Nat) (digits : List Char) : Option Nat :=
  digits.foldl (fun n c => n.bind fun n => (valueIn? base c).map (n * base + ·)) (some 0)

end ExchangeTap.Digits
