import ExchangeTap.Poll

namespace ExchangeTap

structure Pipe (α : Type) where
  capacity : Nat
  items : List α
  sending : Bool
  receiving : Bool
  deriving DecidableEq, Repr

inductive Pipe.Sending (α : Type) where
  | sent (pipe : Pipe α)
  | full
  | closed
  deriving DecidableEq, Repr

namespace Pipe

def empty (capacity : Nat) : Pipe α :=
  ⟨capacity, [], true, true⟩

def send (p : Pipe α) (item : α) : Sending α :=
  if !p.receiving then .closed
  else if p.items.length < p.capacity then .sent { p with items := p.items ++ [item] }
  else .full

/-- The pipe ends once it is empty and nobody can send any more. -/
def receive (p : Pipe α) : Poll (Option α) × Pipe α :=
  match p.items with
  | item :: rest => (.ready (some item), { p with items := rest })
  | [] => if p.sending then (.pending, p) else (.ready none, p)

def dropSender (p : Pipe α) : Pipe α :=
  { p with sending := false }

/-- What was in the pipe is lost. -/
def dropReceiver (p : Pipe α) : Pipe α :=
  { p with items := [], receiving := false }

end Pipe

end ExchangeTap
