import ExchangeTap.Url.Label

namespace ExchangeTap.Url

/-- ASCII characters that no domain name may contain: controls and spaces, and marks with a meaning of
their own in a URL. -/
def isForbidden (c : Char) : Bool :=
  let n := c.toNat
  n ≤ 32 || n == 127 || "%#/:<>?@[\\]^|".toList.contains c

def labelTexts (domain : List Char) : List (List Char) :=
  Text.pieces (· == '.') domain

def isFromRight (c : Char) : Bool :=
  let direction := Text.direction c
  direction == .rightToLeft || direction == .arabicNumber

/-- A name with a character that is written from right to left needs labels that keep their direction. -/
def keepDirections (labels : List Label) : Bool :=
  if labels.any fun label => label.text.any isFromRight then
    labels.all fun label => Label.keepsDirection (label.text.map Text.direction)
  else true

def domainToAscii (domain : List Char) : Option (List Char) := do
  let folded ← domain.mapM fold
  let name := Text.composed folded.flatten
  if name.any isForbidden then none
  else
    let labels ← (labelTexts name).mapM Label.read?
    if keepDirections labels then some (['.'].intercalate (labels.map (·.ascii))) else none

end ExchangeTap.Url
