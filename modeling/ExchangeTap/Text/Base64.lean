/-! Base64 with the standard alphabet and padding. Reading accepts canonical text only: full groups
of four, padding where it belongs, and no stray bits in the last symbol. -/

namespace ExchangeTap.Base64

def symbol (n : Nat) : Char :=
  if n < 26 then Char.ofNat (65 + n)
  else if n < 52 then Char.ofNat (97 + (n - 26))
  else if n < 62 then Char.ofNat (48 + (n - 52))
  else if n = 62 then '+'
  else '/'

def value? (c : Char) : Option Nat :=
  let n := c.toNat
  if 65 ≤ n ∧ n ≤ 90 then some (n - 65)
  else if 97 ≤ n ∧ n ≤ 122 then some (n - 97 + 26)
  else if 48 ≤ n ∧ n ≤ 57 then some (n - 48 + 52)
  else if c = '+' then some 62
  else if c = '/' then some 63
  else none

def encodeBytes : List UInt8 → List Char
  | [] => []
  | [a] => [symbol (a.toNat / 4), symbol (a.toNat % 4 * 16), '=', '=']
  | [a, b] =>
    [symbol (a.toNat / 4), symbol (a.toNat % 4 * 16 + b.toNat / 16), symbol (b.toNat % 16 * 4), '=']
  | a :: b :: c :: rest =>
    symbol (a.toNat / 4) :: symbol (a.toNat % 4 * 16 + b.toNat / 16) ::
      symbol (b.toNat % 16 * 4 + c.toNat / 64) :: symbol (c.toNat % 64) :: encodeBytes rest

def encode (bytes : List UInt8) : String :=
  String.ofList (encodeBytes bytes)

def decodeChars : List Char → Option (List UInt8)
  | [] => some []
  | w :: x :: y :: z :: rest =>
    if y = '=' ∧ z = '=' then
      match rest, value? w, value? x with
      | [], some i, some j =>
        if j % 16 = 0 then some [(i * 4 + j / 16).toUInt8] else none
      | _, _, _ => none
    else if z = '=' then
      match rest, value? w, value? x, value? y with
      | [], some i, some j, some k =>
        if k % 4 = 0 then some [(i * 4 + j / 16).toUInt8, (j % 16 * 16 + k / 4).toUInt8] else none
      | _, _, _, _ => none
    else
      match value? w, value? x, value? y, value? z, decodeChars rest with
      | some i, some j, some k, some l, some bytes =>
        some ((i * 4 + j / 16).toUInt8 :: (j % 16 * 16 + k / 4).toUInt8 ::
          (k % 4 * 64 + l).toUInt8 :: bytes)
      | _, _, _, _, _ => none
  | _ => none

def decode (text : String) : Option (List UInt8) :=
  decodeChars text.toList

end ExchangeTap.Base64
