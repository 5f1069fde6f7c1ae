namespace ExchangeTap.Url.Punycode

def digitChar (d : Nat) : Char :=
  if d < 26 then Char.ofNat (97 + d) else Char.ofNat (22 + d)

def digitValue? (c : Char) : Option Nat :=
  let n := c.toNat
  if 97 ≤ n ∧ n ≤ 122 then some (n - 97)
  else if 65 ≤ n ∧ n ≤ 90 then some (n - 65)
  else if 48 ≤ n ∧ n ≤ 57 then some (n - 22)
  else none

def threshold (position bias : Nat) : Nat :=
  min 26 (max 1 (position - bias))

def shrink (delta position : Nat) : Nat :=
  if 455 < delta then shrink (delta / 35) (position + 36)
  else position + 36 * delta / (delta + 38)
termination_by delta

def adapt (delta count : Nat) (first : Bool) : Nat :=
  let delta := if first then delta / 700 else delta / 2
  shrink (delta + delta / count) 0

def encodeDelta (bias position delta : Nat) : Nat → List Char
  | 0 => []
  | fuel + 1 =>
    let t := threshold position bias
    if delta < t then [digitChar delta]
    else
      digitChar (t + (delta - t) % (36 - t)) ::
        encodeDelta bias (position + 36) ((delta - t) / (36 - t)) fuel

/-- The state of an encoding that goes through the code points in their order. -/
structure Encoding where
  delta : Nat
  bias : Nat
  handled : Nat
  output : List Char

/-- All places of the code point `n`. -/
def encodePoint (n basic : Nat) (points : List Nat) (e : Encoding) : Encoding :=
  points.foldl (fun e point =>
    if point < n then { e with delta := e.delta + 1 }
    else if point = n then
      { delta := 0
        bias := adapt e.delta (e.handled + 1) (e.handled == basic)
        handled := e.handled + 1
        output := e.output ++ encodeDelta e.bias 36 e.delta 64 }
    else e) e

def encodeFrom (n basic : Nat) (points : List Nat) (e : Encoding) : Nat → List Char
  | 0 => e.output
  | fuel + 1 =>
    match (points.filter (n ≤ ·)).min? with
    | none => e.output
    | some m =>
      let e := encodePoint m basic points { e with delta := e.delta + (m - n) * (e.handled + 1) }
      encodeFrom (m + 1) basic points { e with delta := e.delta + 1 } fuel

def encode (label : List Char) : List Char :=
  let basic := label.filter (·.toNat < 128)
  let start : Encoding := ⟨0, 72, basic.length, if basic.isEmpty then [] else basic ++ ['-']⟩
  encodeFrom 128 basic.length (label.map Char.toNat) start label.length

/-- One difference, and what follows it. The weight of a digit fits into 32 bits. -/
def decodeDelta (bias position weight value : Nat) : List Char → Option (Nat × List Char)
  | [] => none
  | c :: rest =>
    (digitValue? c).bind fun digit =>
      let value := value + digit * weight
      let t := threshold position bias
      if digit < t then some (value, rest)
      else if 2 ^ 32 ≤ weight * (36 - t) then none
      else decodeDelta bias (position + 36) (weight * (36 - t)) value rest

def decodeFrom (n i bias : Nat) (output : List Nat) (text : List Char) : Nat → Option (List Nat)
  | 0 => some output
  | fuel + 1 =>
    if text.isEmpty then some output
    else
      (decodeDelta bias 36 1 0 text).bind fun (delta, rest) =>
        let place := i + delta
        let count := output.length + 1
        let point := n + place / count
        let output := output.take (place % count) ++ point :: output.drop (place % count)
        decodeFrom point (place % count + 1) (adapt delta count (i == 0 && n == 128)) output rest fuel

/-- The last hyphen ends the ASCII characters, if there are any. -/
def decode (text : List Char) : Option (List Char) :=
  let reversed := text.reverse
  let basic := ((reversed.dropWhile (· ≠ '-')).drop 1).reverse
  let extended := if basic.isEmpty then text else (reversed.takeWhile (· ≠ '-')).reverse
  ((decodeFrom 128 0 72 (basic.map Char.toNat) extended extended.length).map
    (·.map Char.ofNat)).filter fun label => label.all fun c => c.toNat ≠ 0

end ExchangeTap.Url.Punycode
