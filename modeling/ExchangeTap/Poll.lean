namespace ExchangeTap

/-- A result, or nothing before something else has happened. -/
inductive Poll (α : Type) where
  | ready (value : α)
  | pending
  deriving DecidableEq, Repr

/-- Which of two events a task takes when both are ready. -/
inductive Pick where
  | first
  | second
  deriving DecidableEq, Repr

/-- Takes steps until none is possible, at most so many. -/
def settle (step : α → Option α) : Nat → α → α
  | 0, state => state
  | fuel + 1, state =>
    match step state with
    | none => state
    | some next => settle step fuel next

def ample : Nat := 1000000000

end ExchangeTap
