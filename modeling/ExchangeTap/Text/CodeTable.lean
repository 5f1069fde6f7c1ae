import ExchangeTap.Text.Digits
import ExchangeTap.Text.Pieces

/-! A table is written as a text of runs: `3A3-3AB` are neighbours, `100-12E/2` are every other code
point, and behind a `>` follow the numbers that belong to the run, with points between them; all
numbers are hexadecimal. The runs ascend and do not overlap. -/

namespace ExchangeTap.Text

/-- Code points at equal distances, and what belongs to them. -/
structure Run where
  first : Nat
  last : Nat
  distance : Nat
  numbers : Option (List Nat)
  deriving DecidableEq, Repr

namespace Run

def cut (mark : Char) (text : List Char) : List Char × Option (List Char) :=
  match text.dropWhile (· != mark) with
  | [] => (text, none)
  | _ :: rest => (text.takeWhile (· != mark), some rest)

def readNumbers? : List Char → Option (List Nat)
  | [] => some []
  | text => (pieces (· == '.') text).mapM (Digits.readIn? 16)

def read? (word : List Char) : Option Run := do
  let (place, numbers) := cut '>' word
  let (bounds, distance) := cut '/' place
  let (first, last) := cut '-' bounds
  if first.isEmpty then none
  else
    let start ← Digits.readIn? 16 first
    let last ← Digits.readIn? 16 (last.getD first)
    let distance ← Digits.readIn? 16 (distance.getD ['1'])
    match numbers with
    | none => some ⟨start, last, distance, none⟩
    | some numbers => (readNumbers? numbers).map fun numbers => ⟨start, last, distance, some numbers⟩

def readAll (text : String) : List Run :=
  (pieces (fun c => c == ' ' || c == '\n') text.toList).filterMap read?

end Run

inductive CodeTable where
  | empty
  | node (before : CodeTable) (run : Run) (behind : CodeTable)

namespace CodeTable

/-- A tree of the first runs, no higher than `height`, and the runs that it leaves. -/
def grow : Nat → List Run → CodeTable × List Run
  | 0, runs => (empty, runs)
  | height + 1, runs =>
    let (before, rest) := grow height runs
    match rest with
    | [] => (before, [])
    | run :: rest =>
      let (behind, rest) := grow height rest
      (node before run behind, rest)

def ofList (runs : List Run) : CodeTable :=
  (grow (runs.length.log2 + 1) runs).1

def ofText (text : String) : CodeTable :=
  ofList (Run.readAll text)

def find? (n : Nat) : CodeTable → Option Run
  | empty => none
  | node before run behind =>
    if n < run.first then before.find? n
    else if run.last < n then behind.find? n
    else if (n - run.first) % run.distance = 0 then some run
    else none

def contains (table : CodeTable) (c : Char) : Bool :=
  (table.find? c.toNat).isSome

end CodeTable

end ExchangeTap.Text
