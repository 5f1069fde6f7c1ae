import ExchangeTap.Text.Pieces
import ExchangeTap.Url.Percent

namespace ExchangeTap.Url

def dotSpellings : List (List Char) :=
  [['.'], "%2e".toList, "%2E".toList]

def isHere (segment : List Char) : Bool :=
  dotSpellings.contains segment

def isAbove (segment : List Char) : Bool :=
  dotSpellings.any fun first => dotSpellings.any fun second => segment == first ++ second

def isLetter (c : Char) : Bool :=
  ('a' ≤ c && c ≤ 'z') || ('A' ≤ c && c ≤ 'Z')

def isDrive : List Char → Bool
  | [letter, mark] => isLetter letter && (mark == ':' || mark == '|')
  | _ => false

/-- The path above, with the nearest segment first. There is nothing above the root, nor above a
drive. -/
def above : List (List Char) → List (List Char)
  | [] => []
  | segment :: rest => if isDrive segment then segment :: rest else rest

/-- The segments of a path that goes on with the given pieces. `read` holds those read so far, the
nearest first. Dots in the last piece leave an empty segment behind. -/
def resolve (read : List (List Char)) : List (List Char) → List (List Char)
  | [] => read.reverse
  | piece :: rest =>
    let last := rest.isEmpty
    if isAbove piece then
      resolve (if last then [] :: above read else above read) rest
    else if isHere piece then
      resolve (if last then [] :: read else read) rest
    else
      resolve (encode .path piece :: read) rest

def readPath (text : List Char) : List (List Char) :=
  let pieces := Text.pieces fun c => c == '/' || c == '\\'
  match text with
  | '/' :: rest | '\\' :: rest => resolve [] (pieces rest)
  | text => resolve [] (pieces text)

def pathText (segments : List (List Char)) : List Char :=
  segments.flatMap ('/' :: ·)

end ExchangeTap.Url
