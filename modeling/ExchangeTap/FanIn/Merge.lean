import ExchangeTap.Poll

/-! Every round looks at the inputs that are still open, in cyclic order from a start that moves on
from round to round, and takes the first item or closing that it finds. -/

namespace ExchangeTap

inductive Glance (T : Type) where
  | item (value : T)
  | closed
  | nothing
  /-- The input fails, and takes the merge with it. -/
  | failure
  deriving DecidableEq, Repr

/-- Access to inputs that are part of a state `σ` and are known by their numbers. -/
structure Inputs (σ T : Type) where
  look (state : σ) (input : Nat) : Glance T × σ
  release (state : σ) (input : Nat) : σ

inductive MergePhase (T : Type) where
  /-- It looks for an item; once all inputs of a round were without one, their order is kept. -/
  | choosing (order : Option (List Nat))
  /-- It holds an item, with the number of its input, that the outlet has no room for yet. -/
  | sending (input : Nat) (item : T)
  | ended
  | crashed
  deriving DecidableEq, Repr

structure Merge (T : Type) where
  openInputs : List Nat
  /-- Counted with 64 bits. -/
  round : Nat
  phase : MergePhase T
  deriving DecidableEq, Repr

/-- A merge with its outlet. Each item keeps the number of the input that it came from. -/
structure FanIn (T : Type) where
  merge : Merge T
  outlet : Option (Nat × T)
  stopRequested : Bool
  deriving DecidableEq, Repr

namespace Merge

def roundLimit : Nat := 2 ^ 64

def order (m : Merge T) : List Nat :=
  let start := m.round % m.openInputs.length
  m.openInputs.drop start ++ m.openInputs.take start

def releaseAll (inputs : Inputs σ T) (m : Merge T) (state : σ) : σ :=
  m.openInputs.foldl inputs.release state

def isRunning (m : Merge T) : Bool :=
  match m.phase with
  | .choosing _ | .sending _ _ => true
  | .ended | .crashed => false

def scan (inputs : Inputs σ T) (state : σ) : List Nat → Option (Nat × Glance T) × σ
  | [] => (none, state)
  | input :: rest =>
    match inputs.look state input with
    | (.nothing, state) => scan inputs state rest
    | (glance, state) => (some (input, glance), state)

end Merge

namespace FanIn

def start (count : Nat) : FanIn T :=
  ⟨⟨List.range count, 0, .choosing none⟩, none, false⟩

def finish (inputs : Inputs σ T) (f : FanIn T) (state : σ) : FanIn T × σ :=
  ({ f with merge := ⟨[], f.merge.round, .ended⟩ }, f.merge.releaseAll inputs state)

def advance (inputs : Inputs σ T) (f : FanIn T) (state : σ) : Option (FanIn T × σ) :=
  let m := f.merge
  match m.phase with
  | .ended | .crashed => none
  | .choosing kept =>
    if f.stopRequested then some (f.finish inputs state)
    else if m.openInputs.isEmpty then none
    else
      let order := kept.getD m.order
      let round := if kept.isSome then m.round else (m.round + 1) % Merge.roundLimit
      match Merge.scan inputs state order with
      | (none, state) =>
        if kept.isSome then none
        else some ({ f with merge := { m with round := round, phase := .choosing (some order) } }, state)
      | (some (input, .item value), state) =>
        some ({ f with merge := { m with round := round, phase := .sending input value } }, state)
      | (some (_, .failure), state) =>
        some ({ f with merge := ⟨[], round, .crashed⟩ }, m.releaseAll inputs state)
      | (some (input, _), state) =>
        some ({ f with merge := ⟨m.openInputs.filter (· ≠ input), round, .choosing none⟩ },
          inputs.release state input)
  | .sending input item =>
    if f.stopRequested then some (f.finish inputs state)
    else
      match f.outlet with
      | some _ => none
      | none =>
        some ({ f with merge := { m with phase := .choosing none }, outlet := some (input, item) },
          state)

def receive (f : FanIn T) : Poll (Option (Nat × T)) × FanIn T :=
  match f.outlet with
  | some item => (.ready (some item), { f with outlet := none })
  | none => if f.stopRequested || !f.merge.isRunning then (.ready none, f) else (.pending, f)

def alive (f : FanIn T) : Bool :=
  f.merge.isRunning

def stop (f : FanIn T) : FanIn T :=
  { f with outlet := none, stopRequested := true }

end FanIn

end ExchangeTap
