import ExchangeTap.Json.Value
import ExchangeTap.Number.Shortest

namespace ExchangeTap.Json

def hexDigit (n : Nat) : Char :=
  if n < 10 then Char.ofNat (48 + n) else Char.ofNat (87 + n)

/-- Only quotes, backslashes and control characters are escaped. -/
def escape (c : Char) : List Char :=
  if c = '"' then ['\\', '"']
  else if c = '\\' then ['\\', '\\']
  else if c.toNat = 8 then ['\\', 'b']
  else if c.toNat = 12 then ['\\', 'f']
  else if c = '\n' then ['\\', 'n']
  else if c = '\r' then ['\\', 'r']
  else if c = '\t' then ['\\', 't']
  else if c.toNat < 32 then ['\\', 'u', '0', '0', hexDigit (c.toNat / 16), hexDigit (c.toNat % 16)]
  else [c]

def quoted (s : String) : List Char :=
  '"' :: s.toList.flatMap escape ++ ['"']

def Number.write : Number → List Char
  | .integer value => Digits.integer value
  | .float value => value.write

mutual

def compactChars : Json → List Char
  | .null => ['n', 'u', 'l', 'l']
  | .boolean true => ['t', 'r', 'u', 'e']
  | .boolean false => ['f', 'a', 'l', 's', 'e']
  | .number value => value.write
  | .text value => quoted value
  | .list items => '[' :: compactItems items
  | .object members => '\x7b' :: compactMembers members
termination_by structural value => value

def compactItems : List Json → List Char
  | [] => [']']
  | [last] => compactChars last ++ [']']
  | item :: rest => compactChars item ++ ',' :: compactItems rest
termination_by structural items => items

def compactMembers : List (String × Json) → List Char
  | [] => ['\x7d']
  | [(name, last)] => quoted name ++ ':' :: compactChars last ++ ['\x7d']
  | (name, value) :: rest => quoted name ++ ':' :: compactChars value ++ ',' :: compactMembers rest
termination_by structural members => members

end

def indentation (level : Nat) : List Char :=
  '\n' :: List.replicate (2 * level) ' '

mutual

def prettyChars (level : Nat) : Json → List Char
  | .list [] => ['[', ']']
  | .list items => '[' :: prettyItems (level + 1) items
  | .object [] => ['\x7b', '\x7d']
  | .object members => '\x7b' :: prettyMembers (level + 1) members
  | .null => ['n', 'u', 'l', 'l']
  | .boolean true => ['t', 'r', 'u', 'e']
  | .boolean false => ['f', 'a', 'l', 's', 'e']
  | .number value => value.write
  | .text value => quoted value
termination_by structural value => value

def prettyItems (level : Nat) : List Json → List Char
  | [] => indentation (level - 1) ++ [']']
  | [last] => indentation level ++ prettyChars level last ++ indentation (level - 1) ++ [']']
  | item :: rest => indentation level ++ prettyChars level item ++ ',' :: prettyItems level rest
termination_by structural items => items

def prettyMembers (level : Nat) : List (String × Json) → List Char
  | [] => indentation (level - 1) ++ ['\x7d']
  | [(name, last)] =>
    indentation level ++ quoted name ++ ':' :: ' ' :: prettyChars level last ++
      indentation (level - 1) ++ ['\x7d']
  | (name, value) :: rest =>
    indentation level ++ quoted name ++ ':' :: ' ' :: prettyChars level value ++
      ',' :: prettyMembers level rest
termination_by structural members => members

end

def compact (value : Json) : String :=
  String.ofList value.compactChars

def pretty (value : Json) : String :=
  String.ofList (value.prettyChars 0)

end ExchangeTap.Json
