/-! `segments` cuts any byte sequence into characters and maximal ill-formed pieces; the strict and
the lossy reading both fold over those segments. -/

namespace ExchangeTap.Utf8

def encodeChar (c : Char) : List UInt8 :=
  let n := c.toNat
  if n < 0x80 then
    [n.toUInt8]
  else if n < 0x800 then
    [(0xC0 + n / 0x40).toUInt8, (0x80 + n % 0x40).toUInt8]
  else if n < 0x10000 then
    [(0xE0 + n / 0x1000).toUInt8, (0x80 + n / 0x40 % 0x40).toUInt8, (0x80 + n % 0x40).toUInt8]
  else
    [(0xF0 + n / 0x40000).toUInt8, (0x80 + n / 0x1000 % 0x40).toUInt8,
      (0x80 + n / 0x40 % 0x40).toUInt8, (0x80 + n % 0x40).toUInt8]

def encodeChars (cs : List Char) : List UInt8 :=
  cs.flatMap encodeChar

@[simp] theorem encodeChars_nil : encodeChars [] = [] := rfl

@[simp] theorem encodeChars_cons (c : Char) (cs : List Char) :
    encodeChars (c :: cs) = encodeChar c ++ encodeChars cs := rfl

@[simp] theorem encodeChars_append (first second : List Char) :
    encodeChars (first ++ second) = encodeChars first ++ encodeChars second :=
  List.flatMap_append

def encode (text : String) : List UInt8 :=
  encodeChars text.toList

/-- What a byte announces when it stands first: how many bytes follow it, and the bounds of the
first of these. -/
inductive Lead where
  | alone
  | followed (count : Nat) (low high : UInt8)
  | never
  deriving DecidableEq, Repr

def lead (byte : UInt8) : Lead :=
  if byte < 0x80 then .alone
  else if byte < 0xC2 then .never
  else if byte < 0xE0 then .followed 1 0x80 0xBF
  else if byte = 0xE0 then .followed 2 0xA0 0xBF
  else if byte = 0xED then .followed 2 0x80 0x9F
  else if byte < 0xF0 then .followed 2 0x80 0xBF
  else if byte = 0xF0 then .followed 3 0x90 0xBF
  else if byte < 0xF4 then .followed 3 0x80 0xBF
  else if byte = 0xF4 then .followed 3 0x80 0x8F
  else .never

/-- A piece of a byte sequence: a character, bytes that no character starts with, or the start of
a character that the sequence ends in. -/
inductive Segment where
  | char (value : Char)
  | invalid (length : Nat)
  | truncated (length : Nat)
  deriving DecidableEq, Repr

def isTail (byte : UInt8) : Bool :=
  0x80 ≤ byte && byte ≤ 0xBF

def payload (byte : UInt8) : Nat :=
  byte.toNat % 0x40

def segments : List UInt8 → List Segment
  | [] => []
  | a :: afterA =>
    match lead a with
    | .alone => .char (Char.ofNat a.toNat) :: segments afterA
    | .never => .invalid 1 :: segments afterA
    | .followed count low high =>
      match afterA with
      | [] => [.truncated 1]
      | b :: afterB =>
        if low ≤ b && b ≤ high then
          if count = 1 then
            .char (Char.ofNat (a.toNat % 0x20 * 0x40 + payload b)) :: segments afterB
          else
            match afterB with
            | [] => [.truncated 2]
            | c :: afterC =>
              if isTail c then
                if count = 2 then
                  .char (Char.ofNat (a.toNat % 0x10 * 0x1000 + payload b * 0x40 + payload c)) ::
                    segments afterC
                else
                  match afterC with
                  | [] => [.truncated 3]
                  | d :: afterD =>
                    if isTail d then
                      .char (Char.ofNat (a.toNat % 0x08 * 0x40000 + payload b * 0x1000 +
                        payload c * 0x40 + payload d)) :: segments afterD
                    else
                      .invalid 3 :: segments (d :: afterD)
              else
                .invalid 2 :: segments (c :: afterC)
        else
          .invalid 1 :: segments (b :: afterB)

def Segment.toChar : Segment → Char
  | .char value => value
  | .invalid _ | .truncated _ => '\uFFFD'

def lossy (bytes : List UInt8) : String :=
  String.ofList ((segments bytes).map Segment.toChar)

/-- The first ill-formed piece: where it starts, and its length unless the input ends in it. -/
structure Defect where
  index : Nat
  length : Option Nat
  deriving DecidableEq, Repr

def Defect.message (defect : Defect) : String :=
  match defect.length with
  | some length => s!"invalid utf-8 sequence of {length} bytes from index {defect.index}"
  | none => s!"incomplete utf-8 byte sequence from index {defect.index}"

def collect (index : Nat) : List Segment → Except Defect (List Char)
  | [] => .ok []
  | .char value :: rest =>
    (collect (index + (encodeChar value).length) rest).map (value :: ·)
  | .invalid length :: _ => .error ⟨index, some length⟩
  | .truncated _ :: _ => .error ⟨index, none⟩

def decodeChars (bytes : List UInt8) : Except Defect (List Char) :=
  collect 0 (segments bytes)

def decode (bytes : List UInt8) : Except Defect String :=
  (decodeChars bytes).map String.ofList

end ExchangeTap.Utf8
