import ExchangeTap.Json.Value
import ExchangeTap.Text.Utf8

/-! A lexeme that goes wrong is the last one and says how: a strict reader and one that merely skips
the lexeme can differ in what they call wrong. -/

namespace ExchangeTap.Json

/-- How a text fails to be JSON of the wanted form: it is malformed, it ends early, or it is well
formed and of another form. -/
inductive Fault where
  | malformed
  | early
  | mistyped
  deriving DecidableEq, Repr

/-- The fault that a strict reader finds, and the one found when skipping. -/
structure Defect where
  strict : Fault
  skipping : Fault
  deriving DecidableEq, Repr

namespace Defect

def malformed : Defect := ⟨.malformed, .malformed⟩

def early : Defect := ⟨.early, .early⟩

end Defect

/-- A number is none beyond the doubles; a text is none when half of a surrogate pair stands alone
in it. -/
inductive Token where
  | openList
  | closeList
  | openObject
  | closeObject
  | comma
  | colon
  | null
  | boolean (value : Bool)
  | number (value : Option Number)
  | text (value : Option String)
  | broken (quoted : Bool) (defect : Defect)
  deriving DecidableEq, Repr

structure Lexeme where
  token : Token
  length : Nat
  deriving DecidableEq, Repr

def isSpace (c : Char) : Bool :=
  c == ' ' || c == '\t' || c == '\n' || c == '\r'

def isDigit (c : Char) : Bool :=
  '0' ≤ c && c ≤ '9'

def hexValue? (c : Char) : Option Nat :=
  let n := c.toNat
  if 48 ≤ n ∧ n ≤ 57 then some (n - 48)
  else if 97 ≤ n ∧ n ≤ 102 then some (n - 87)
  else if 65 ≤ n ∧ n ≤ 70 then some (n - 55)
  else none

inductive HexEscape where
  | unit (value : Nat)
  | invalid
  | cut
  deriving DecidableEq, Repr

def hexEscape (rest : List Char) : HexEscape :=
  if (Utf8.encodeChars (rest.take 4)).length < 4 then .cut else
    match rest with
    | a :: b :: c :: d :: _ =>
      match hexValue? a, hexValue? b, hexValue? c, hexValue? d with
      | some i, some j, some k, some l => .unit (i * 4096 + j * 256 + k * 16 + l)
      | _, _, _, _ => .invalid
    | _ => .invalid

def isLeading (unit : Nat) : Bool :=
  0xD800 ≤ unit && unit < 0xDC00

def isTrailing (unit : Nat) : Bool :=
  0xDC00 ≤ unit && unit < 0xE000

inductive Partner where
  | trailing (unit : Nat)
  | missing
  | cut
  deriving DecidableEq, Repr

def partner (rest : List Char) : Partner :=
  match rest with
  | [] => .cut
  | ['\\'] => .cut
  | '\\' :: 'u' :: digits =>
    match hexEscape digits with
    | .unit value => if isTrailing value then .trailing value else .missing
    | .invalid => .missing
    | .cut => .cut
  | _ => .missing

def simpleEscape? (c : Char) : Option Char :=
  match c with
  | '"' => some '"'
  | '\\' => some '\\'
  | '/' => some '/'
  | 'b' => some (Char.ofNat 8)
  | 'f' => some (Char.ofNat 12)
  | 'n' => some '\n'
  | 'r' => some '\r'
  | 't' => some '\t'
  | _ => none

/-- The characters read so far, latest first, whether all surrogates among them were paired, and
the number of characters they took. -/
structure TextState where
  read : List Char
  paired : Bool
  length : Nat

def TextState.push (s : TextState) (c : Char) (taken : Nat) : TextState :=
  ⟨c :: s.read, s.paired, s.length + taken⟩

def TextState.fail (s : TextState) (fault : Fault) : Lexeme :=
  ⟨.broken true ⟨if s.paired then fault else .malformed, fault⟩, s.length⟩

def scanText (s : TextState) : List Char → Lexeme
  | [] => s.fail .early
  | '"' :: _ => ⟨.text (if s.paired then some (String.ofList s.read.reverse) else none), s.length + 1⟩
  | '\\' :: rest =>
    match rest with
    | [] => s.fail .early
    | 'u' :: digits =>
      match hexEscape digits with
      | .cut => s.fail .early
      | .invalid => s.fail .malformed
      | .unit value =>
        match digits with
        | _ :: _ :: _ :: _ :: tail =>
          if isTrailing value then scanText ⟨s.read, false, s.length + 6⟩ tail
          else if isLeading value then
            match partner tail with
            | .cut => s.fail .early
            | .missing => scanText ⟨s.read, false, s.length + 6⟩ tail
            | .trailing low =>
              match tail with
              | _ :: _ :: _ :: _ :: _ :: _ :: after =>
                scanText (s.push (Char.ofNat (0x10000 + (value - 0xD800) * 0x400 + (low - 0xDC00))) 12)
                  after
              | _ => s.fail .early
          else scanText (s.push (Char.ofNat value) 6) tail
        | _ => s.fail .early
    | c :: tail =>
      match simpleEscape? c with
      | some value => scanText (s.push value 2) tail
      | none => s.fail .malformed
  | c :: rest => if c.toNat < 32 then s.fail .malformed else scanText (s.push c 1) rest

def scanDigits (cs : List Char) : Except Defect (List Char × List Char) :=
  match cs.takeWhile isDigit with
  | [] => .error (if cs.isEmpty then ⟨.early, .malformed⟩ else .malformed)
  | digits => .ok (digits, cs.dropWhile isDigit)

def scanWhole (cs : List Char) : Except Defect (List Char × List Char) :=
  match scanDigits cs with
  | .ok ('0' :: _ :: _, _) => .error .malformed
  | result => result

def scanFraction (cs : List Char) : Except Defect (List Char × List Char) :=
  match cs with
  | '.' :: rest => scanDigits rest
  | _ => .ok ([], cs)

def scanPower (cs : List Char) : Except Defect (Option (Bool × List Char) × Nat) :=
  match cs with
  | mark :: rest =>
    if mark = 'e' ∨ mark = 'E' then
      match rest with
      | '-' :: digits => (scanDigits digits).map fun (ds, _) => (some (true, ds), ds.length + 2)
      | '+' :: digits => (scanDigits digits).map fun (ds, _) => (some (false, ds), ds.length + 2)
      | digits => (scanDigits digits).map fun (ds, _) => (some (false, ds), ds.length + 1)
    else .ok (none, 0)
  | [] => .ok (none, 0)

def scanNumeral (cs : List Char) : Except Defect (Numeral × Nat) := do
  let negative := cs.head? == some '-'
  let (whole, afterWhole) ← scanWhole (if negative then cs.tail else cs)
  let (fraction, afterFraction) ← scanFraction afterWhole
  let (power, powerLength) ← scanPower afterFraction
  let fractionLength := if fraction.isEmpty then 0 else fraction.length + 1
  return (⟨negative, whole, fraction, power⟩,
    (if negative then 1 else 0) + whole.length + fractionLength + powerLength)

def scanWord (word : List Char) (token : Token) (cs : List Char) : Lexeme :=
  if word.isPrefixOf cs then ⟨token, word.length⟩
  else if cs.isPrefixOf word then ⟨.broken false .early, cs.length⟩
  else ⟨.broken false .malformed, 1⟩

def scan (c : Char) (rest : List Char) : Lexeme :=
  if c = '[' then ⟨.openList, 1⟩
  else if c = ']' then ⟨.closeList, 1⟩
  else if c = '\x7b' then ⟨.openObject, 1⟩
  else if c = '\x7d' then ⟨.closeObject, 1⟩
  else if c = ',' then ⟨.comma, 1⟩
  else if c = ':' then ⟨.colon, 1⟩
  else if c = '"' then scanText ⟨[], true, 1⟩ rest
  else if c = 'n' then scanWord ['n', 'u', 'l', 'l'] .null (c :: rest)
  else if c = 't' then scanWord ['t', 'r', 'u', 'e'] (.boolean true) (c :: rest)
  else if c = 'f' then scanWord ['f', 'a', 'l', 's', 'e'] (.boolean false) (c :: rest)
  else if c = '-' ∨ isDigit c then
    match scanNumeral (c :: rest) with
    | .ok (numeral, length) => ⟨.number numeral.value, length⟩
    | .error defect => ⟨.broken false defect, 1⟩
  else ⟨.broken false .malformed, 1⟩

/-- The tokens of a text of which `skip` characters are already used. -/
def tokensAfter (skip : Nat) : List Char → List Token
  | [] => []
  | c :: rest =>
    match skip with
    | more + 1 => tokensAfter more rest
    | 0 =>
      if isSpace c then tokensAfter 0 rest
      else
        let lexeme := scan c rest
        match lexeme.token with
        | .broken _ _ => [lexeme.token]
        | token => token :: tokensAfter (lexeme.length - 1) rest

def tokens (text : List Char) : List Token :=
  tokensAfter 0 text

end ExchangeTap.Json
