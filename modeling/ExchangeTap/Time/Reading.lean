import ExchangeTap.Text.Blank
import ExchangeTap.Time.Instant

/-! The reader is lenient: blanks may stand in front of numbers and separators, months, days, hours,
minutes and seconds may have a single digit, a year with a sign may have any number of digits, and
the zone is `UTC`, `Z` or an offset in hours and minutes. -/

namespace ExchangeTap.Instant

def isDigit (c : Char) : Bool :=
  '0' ≤ c && c ≤ '9'

def readNumber (most : Nat) (text : List Char) : Option (Nat × List Char) :=
  match (text.take most).takeWhile isDigit with
  | [] => none
  | digits => some (Digits.read 0 digits, text.drop digits.length)

def readBetween (low high : Nat) (text : List Char) : Option (Nat × List Char) := do
  let (n, rest) ← readNumber 2 (skipBlank text)
  if low ≤ n ∧ n ≤ high then some (n, rest) else none

def readMark (mark : Char) (text : List Char) : Option (List Char) :=
  match skipBlank text with
  | c :: rest => if c = mark then some rest else none
  | [] => none

def readYear (text : List Char) : Option (Int × List Char) :=
  match skipBlank text with
  | '-' :: rest => (readNumber rest.length rest).map fun (n, rest) => (-(n : Int), rest)
  | '+' :: rest => (readNumber rest.length rest).map fun (n, rest) => ((n : Int), rest)
  | text => (readNumber 4 text).map fun (n, rest) => ((n : Int), rest)

def readDate (text : List Char) : Option (Date × List Char) := do
  let (year, text) ← readYear text
  let text ← readMark '-' text
  let (month, text) ← readBetween 1 12 text
  let text ← readMark '-' text
  let (day, text) ← readBetween 1 31 text
  let date : Date := ⟨year, month, day⟩
  if firstYear ≤ year ∧ year ≤ lastYear ∧ date.exists? then some (date, text) else none

/-- Digits behind the ninth count for nothing. -/
def readFraction (text : List Char) : Option (Nat × List Char) :=
  match text with
  | '.' :: rest =>
    match (rest.take 9).takeWhile isDigit with
    | [] => none
    | digits =>
      some (Digits.read 0 digits * 10 ^ (9 - digits.length), (rest.drop digits.length).dropWhile isDigit)
  | _ => some (0, text)

/-- The seconds of a day and the nanoseconds; second 60 is a leap second. -/
def readTime (text : List Char) : Option (Nat × Nat × List Char) := do
  let (hour, text) ← readBetween 0 23 text
  let text ← readMark ':' text
  let (minute, text) ← readBetween 0 59 text
  let text ← readMark ':' text
  let (second, text) ← readBetween 0 60 text
  let (nanos, text) ← readFraction text
  let leap := second / 60
  return (hour * 3600 + minute * 60 + second - leap, nanos + leap * Instant.second, text)

def readPair (text : List Char) : Option (Nat × List Char) :=
  match text with
  | a :: b :: rest => if isDigit a && isDigit b then some (Digits.read 0 [a, b], rest) else none
  | _ => none

def readOffset (text : List Char) : Option (Nat × List Char) := do
  let (hours, text) ← readPair text
  let (minutes, text) ← readPair (text.dropWhile fun c => c == ':' || isBlank c)
  if minutes < 60 ∧ hours < 24 then some (hours * 3600 + minutes * 60, text) else none

/-- The seconds by which the zone is ahead of universal time. -/
def readZone (text : List Char) : Option (Int × List Char) :=
  if (text.take 3).map Char.toUpper = ['U', 'T', 'C'] then some (0, text.drop 3)
  else
    match text with
    | c :: rest =>
      if c = 'Z' ∨ c = 'z' then some (0, rest)
      else if c = '+' then (readOffset rest).map fun (n, rest) => ((n : Int), rest)
      else if c = '-' ∨ c = '−' then (readOffset rest).map fun (n, rest) => (-(n : Int), rest)
      else none
    | [] => none

def readChars (text : List Char) : Option Instant := do
  let (date, text) ← readDate text
  let text ←
    match text with
    | c :: rest => if c = 'T' ∨ c = 't' ∨ c = ' ' then some rest else none
    | [] => none
  let (time, nanos, text) ← readTime text
  let (offset, text) ← readZone (skipBlank text)
  let instant : Instant := ⟨date.toDays * 86400 + time - offset, nanos⟩
  if skipBlank text = [] ∧ instant.Valid then some instant else none

def read (text : String) : Option Instant :=
  readChars text.toList

end ExchangeTap.Instant
