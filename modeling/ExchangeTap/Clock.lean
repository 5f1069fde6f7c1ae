import ExchangeTap.Poll

namespace ExchangeTap

/-- What has a clock, may wait for a point in time, and can be settled. -/
structure Timed (α : Type) where
  now : α → Nat
  deadline? : α → Option Nat
  setNow : Nat → α → α
  settled : α → α

/-- The clock stops at each point in time that is waited for, and at last at `target`. -/
def Timed.advance (t : Timed α) (target : Nat) : Nat → α → α
  | 0, state => state
  | fuel + 1, state =>
    match t.deadline? state with
    | some deadline =>
      if deadline < target then
        t.advance target fuel (t.settled (t.setNow (max deadline (t.now state)) state))
      else t.settled (t.setNow target state)
    | none => t.settled (t.setNow target state)

end ExchangeTap
