import ExchangeTap.Text.Utf8

/-! Which characters are encoded depends on the part of the URL; everything outside of ASCII and all
control characters always are. -/

namespace ExchangeTap.Url

inductive Part where
  | path
  | query
  | fragment
  deriving DecidableEq, Repr

def Part.encodes : Part → Char → Bool
  | path, c => c == ' ' || c == '"' || c == '<' || c == '>' || c == '\x60' || c == '#' || c == '?' ||
      c == '\x7b' || c == '\x7d'
  | query, c => c == ' ' || c == '"' || c == '#' || c == '<' || c == '>' || c == '\''
  | fragment, c => c == ' ' || c == '"' || c == '<' || c == '>' || c == '\x60'

def hexDigit (n : Nat) : Char :=
  if n < 10 then Char.ofNat (48 + n) else Char.ofNat (55 + n)

def hexValue? (byte : UInt8) : Option Nat :=
  let n := byte.toNat
  if 48 ≤ n ∧ n ≤ 57 then some (n - 48)
  else if 65 ≤ n ∧ n ≤ 70 then some (n - 55)
  else if 97 ≤ n ∧ n ≤ 102 then some (n - 87)
  else none

def escapeByte (byte : UInt8) : List Char :=
  ['%', hexDigit (byte.toNat / 16), hexDigit (byte.toNat % 16)]

def escapeAll (text : List Char) : List Char :=
  (Utf8.encodeChars text).flatMap escapeByte

def encodeChar (part : Part) (c : Char) : List Char :=
  if c.toNat < 32 ∨ 126 < c.toNat ∨ part.encodes c then escapeAll [c] else [c]

def encode (part : Part) (text : List Char) : List Char :=
  text.flatMap (encodeChar part)

/-- A percent sign without two hexadecimal digits behind it stands for itself. -/
def decode : List UInt8 → List UInt8
  | [] => []
  | percent :: rest =>
    if percent = 37 then
      match rest with
      | a :: b :: tail =>
        match hexValue? a, hexValue? b with
        | some high, some low => (high * 16 + low).toUInt8 :: decode tail
        | _, _ => percent :: decode (a :: b :: tail)
      | rest => percent :: rest
    else percent :: decode rest

end ExchangeTap.Url
