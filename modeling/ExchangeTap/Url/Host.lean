import ExchangeTap.Text.Digits
import ExchangeTap.Url.Domain
import ExchangeTap.Url.Percent

namespace ExchangeTap.Url

inductive Fault where
  | relative
  | emptyHost
  | invalidPort
  | invalidIpv4
  | invalidIpv6
  | invalidDomain
  | invalidHostCharacter
  deriving DecidableEq, Repr

def Fault.message : Fault → String
  | relative => "relative URL without a base"
  | emptyHost => "empty host"
  | invalidPort => "invalid port number"
  | invalidIpv4 => "invalid IPv4 address"
  | invalidIpv6 => "invalid IPv6 address"
  | invalidDomain => "invalid international domain name"
  | invalidHostCharacter => "invalid domain character"

/-- A part of an IPv4 address: decimal, hexadecimal behind `0x`, or octal behind `0`. -/
def ipv4Part (part : List Char) : Option Nat :=
  match part with
  | [] => none
  | '0' :: 'x' :: digits | '0' :: 'X' :: digits => Digits.readIn? 16 digits
  | '0' :: c :: digits => Digits.readIn? 8 (c :: digits)
  | digits => Digits.readIn? 10 digits

/-- A last label that looks like a number makes the host an IPv4 address. -/
def endsInNumber (domain : List Char) : Bool :=
  let last :=
    match (labelTexts domain).reverse with
    | [] => []
    | [] :: last :: _ => last
    | last :: _ => last
  (!last.isEmpty && last.all fun c => '0' ≤ c && c ≤ '9') || (ipv4Part last).isSome

/-- The last part fills all the bytes that are left. -/
def parseIpv4 (domain : List Char) : Except Fault Nat :=
  let parts :=
    match (labelTexts domain).reverse with
    | [] :: rest => rest.reverse
    | _ => labelTexts domain
  match parts.mapM ipv4Part with
  | none => .error .invalidIpv4
  | some numbers =>
    match numbers.reverse with
    | [] => .error .invalidIpv4
    | last :: leading =>
      if 4 < numbers.length ∨ leading.any (255 < ·) ∨ 256 ^ (4 - leading.length) ≤ last then
        .error .invalidIpv4
      else
        .ok (leading.reverse.foldl (fun n part => n * 256 + part) 0 * 256 ^ (4 - leading.length) + last)

def ipv4Text (address : Nat) : List Char :=
  ['.'].intercalate ([address / 2 ^ 24, address / 2 ^ 16 % 256, address / 2 ^ 8 % 256,
    address % 256].map Digits.write)

def ipv6Byte (text : List Char) : Option (Nat × List Char) :=
  let digits := text.takeWhile fun c => '0' ≤ c && c ≤ '9'
  let value := Digits.read 0 digits
  if digits.isEmpty || 255 < value || (1 < digits.length && digits.head? == some '0') then none
  else some (value, text.drop digits.length)

def ipv6Tail (text : List Char) : Option (List Nat) := do
  let (a, text) ← ipv6Byte text
  let '.' :: text := text | none
  let (b, text) ← ipv6Byte text
  let '.' :: text := text | none
  let (c, text) ← ipv6Byte text
  let '.' :: text := text | none
  let (d, text) ← ipv6Byte text
  if text.isEmpty then some [a * 256 + b, c * 256 + d] else none

/-- The pieces of an IPv6 address, and behind how many of them the zeros were left out. `pieces` are
those read so far. -/
def ipv6Pieces (pieces : List Nat) (gap : Option Nat) (text : List Char) :
    Nat → Option (List Nat × Option Nat)
  | 0 => none
  | fuel + 1 =>
    match text with
    | [] => some (pieces, gap)
    | ':' :: rest =>
      if gap.isSome ∨ 8 ≤ pieces.length then none
      else ipv6Pieces pieces (some pieces.length) rest fuel
    | text =>
      if 8 ≤ pieces.length then none
      else
        let digits := (text.take 4).takeWhile fun c => (Digits.valueIn? 16 c).isSome
        let value := (Digits.readIn? 16 digits).getD 0
        match text.drop digits.length with
        | [] => some (pieces ++ [value], gap)
        | '.' :: _ =>
          if digits.isEmpty ∨ 6 < pieces.length then none
          else (ipv6Tail text).map fun tail => (pieces ++ tail, gap)
        | ':' :: rest =>
          if rest.isEmpty then none else ipv6Pieces (pieces ++ [value]) gap rest fuel
        | _ => none

def parseIpv6 (text : List Char) : Except Fault (List Nat) :=
  let read :=
    match text with
    | ':' :: ':' :: rest => ipv6Pieces [] (some 0) rest (text.length + 1)
    | ':' :: _ => none
    | text => if text.length < 2 then none else ipv6Pieces [] none text (text.length + 1)
  match read with
  | some (pieces, some gap) =>
    if pieces.length < 8 then
      .ok (pieces.take gap ++ List.replicate (8 - pieces.length) 0 ++ pieces.drop gap)
    else .error .invalidIpv6
  | some (pieces, none) => if pieces.length = 8 then .ok pieces else .error .invalidIpv6
  | none => .error .invalidIpv6

def hexText (n : Nat) : List Char :=
  Nat.toDigits 16 n

def zeroRun (pieces : List Nat) : Nat :=
  (pieces.takeWhile (· == 0)).length

def longestZeroRun (pieces : List Nat) : Nat × Nat :=
  (List.range pieces.length).foldl (fun best start =>
    let run := zeroRun (pieces.drop start)
    if best.2 < run then (start, run) else best) (0, 0)

/-- The longest run of zeros is left out, if it is longer than one. -/
def ipv6Text (pieces : List Nat) : List Char :=
  let join (pieces : List Nat) := [':'].intercalate (pieces.map hexText)
  let (start, run) := longestZeroRun pieces
  if run < 2 then join pieces
  else join (pieces.take start) ++ [':', ':'] ++ join (pieces.drop (start + run))

inductive Host where
  | domain (name : List Char)
  | ipv4 (address : Nat)
  | ipv6 (pieces : List Nat)
  deriving DecidableEq, Repr

def Host.text : Host → List Char
  | domain name => name
  | ipv4 address => ipv4Text address
  | ipv6 pieces => '[' :: ipv6Text pieces ++ [']']

def bracketed (text : List Char) (otherwise : Except Fault Host) : Except Fault Host :=
  match text with
  | '[' :: rest =>
    if rest.getLast? = some ']' then (parseIpv6 rest.dropLast).map .ipv6 else .error .invalidIpv6
  | _ => otherwise

/-- The host of a URL whose scheme names hosts of the internet. -/
def Host.parse (text : List Char) : Except Fault Host :=
  bracketed text <|
    match Utf8.decodeChars (decode (Utf8.encodeChars text)) with
    | .error _ => .error .invalidDomain
    | .ok decoded =>
      match domainToAscii decoded with
      | none => .error .invalidDomain
      | some [] => .error .emptyHost
      | some name => if endsInNumber name then (parseIpv4 name).map .ipv4 else .ok (.domain name)

/-- The host of any other URL. -/
def Host.parseOpaque (text : List Char) : Except Fault Host :=
  bracketed text <|
    if text.any fun c => c == '\x00' || " #/:<>?@[\\]^|".toList.contains c then
      .error .invalidHostCharacter
    else .ok (.domain text)

end ExchangeTap.Url
