import ExchangeTap.Text.Composed
import ExchangeTap.Text.Direction
import ExchangeTap.Text.Joining
import ExchangeTap.Text.Pieces
import ExchangeTap.Url.Folding
import ExchangeTap.Url.Punycode

/-! A label outside of ASCII has a second form in Punycode, behind `xn--`, and must not be mistaken
for another one: it begins with no mark, uses joiners only where they show, and keeps to one
direction. -/

namespace ExchangeTap.Url

structure Label where
  text : List Char
  ascii : List Char
  deriving DecidableEq, Repr

namespace Label

open Text (Direction)

def isAscii (text : List Char) : Bool :=
  text.all (·.toNat < 0x80)

def zeroWidthNonJoiner : Char := Char.ofNat 0x200C

def zeroWidthJoiner : Char := Char.ofNat 0x200D

/-- A joiner shows behind a virama. One that keeps letters apart also shows between letters that would join
each other. `before` are the characters before the joiner, the nearest first. -/
def joinerFits (before : List Char) (joiner : Char) (behind : List Char) : Bool :=
  match before with
  | [] => false
  | previous :: _ =>
    Text.isVirama previous ||
      (joiner == zeroWidthNonJoiner &&
        (before.find? (!Text.isTransparent ·)).any Text.joinsNext &&
        (behind.find? (!Text.isTransparent ·)).any Text.joinsPrevious)

def joinersFit (before : List Char) : List Char → Bool
  | [] => true
  | c :: rest =>
    (if c = zeroWidthNonJoiner ∨ c = zeroWidthJoiner then joinerFits before c rest else true) &&
      joinersFit (c :: before) rest

def lengthLimit : Nat := 1000

def encodedLimit : Nat := 2000

/-- The rules for the text of a label outside of ASCII. -/
def isSound (text : List Char) : Bool :=
  !text.head?.any Text.isMark && joinersFit [] text && text.length ≤ lengthLimit

def marker : List Char := "xn--".toList

/-- The text that stands behind `xn--` in Punycode: it has to be folded and composed already. -/
def decode? (encoded : List Char) : Option (List Char) :=
  if isAscii encoded && encoded.getLast?.any (· != '-') && encoded.length ≤ encodedLimit then
    (Punycode.decode encoded).filter fun text =>
      !isAscii text && text.all staysFolded && Text.composed text == text && isSound text
  else none

def read? (text : List Char) : Option Label :=
  match text with
  | 'x' :: 'n' :: '-' :: '-' :: encoded => (decode? encoded).map fun decoded => ⟨decoded, text⟩
  | _ =>
    if isAscii text then some ⟨text, text⟩
    else if isSound text then some ⟨text, marker ++ Punycode.encode text⟩
    else none

def isUndirected : Direction → Bool
  | .europeanNumber | .neutral | .nonspacing => true
  | .leftToRight | .rightToLeft | .arabicNumber => false

/-- Whether a label may stand beside labels that are written from right to left. Marks at its end do not
count. It ends in a letter or a digit of its own direction, and has digits of one kind only. -/
def keepsDirection (label : List Direction) : Bool :=
  match label with
  | [] => true
  | first :: rest =>
    let rest := (rest.reverse.dropWhile (· == .nonspacing)).reverse
    match first with
    | .leftToRight =>
      rest.getLast?.all (fun last => last == .leftToRight || last == .europeanNumber) &&
        rest.dropLast.all fun inner => inner == .leftToRight || isUndirected inner
    | .rightToLeft =>
      rest.getLast?.all (fun last => last != .leftToRight && last != .neutral) &&
        rest.all (· != .leftToRight) &&
        !(rest.contains .europeanNumber && rest.contains .arabicNumber)
    | _ => false

end Label

end ExchangeTap.Url
