import ExchangeTap.Poll

/-! A slot for one signal, whose receiving side is shared: whoever wants to receive waits for its
lock, in order, and holds the lock until a signal is taken or the attempt is given up. -/

namespace ExchangeTap

inductive Signal where
  | reconnect
  | shutdown
  deriving DecidableEq, Repr

inductive Action where
  | reconnect
  | stop
  deriving DecidableEq, Repr

inductive Offer where
  | accepted
  | full
  deriving DecidableEq, Repr

/-- `ρ` names those who may wait for a signal. -/
structure ControlPath (ρ : Type) where
  slot : Option Signal
  /-- A sender waits for the slot, so that nobody else may fill it. -/
  reserved : Bool
  senderAlive : Bool
  holder : Option ρ
  queue : List ρ
  deriving DecidableEq, Repr

namespace ControlPath

variable {ρ : Type} [DecidableEq ρ]

def empty : ControlPath ρ :=
  ⟨none, false, true, none, []⟩

def offer (p : ControlPath ρ) (s : Signal) : Offer × ControlPath ρ :=
  if p.slot.isSome || p.reserved then (.full, p)
  else (.accepted, { p with slot := some s })

def dropSender (p : ControlPath ρ) : ControlPath ρ :=
  { p with senderAlive := false }

def release (p : ControlPath ρ) : ControlPath ρ :=
  { p with holder := p.queue.head?, queue := p.queue.tail }

def request (p : ControlPath ρ) (r : ρ) : ControlPath ρ :=
  if p.holder = some r ∨ r ∈ p.queue then p
  else if p.holder = none then { p with holder := some r }
  else { p with queue := p.queue ++ [r] }

/-- Goes on with an attempt to receive. It ends with a signal, or with none once the slot is empty and
can never be filled again. -/
def poll (p : ControlPath ρ) (r : ρ) : Poll (Option Signal) × ControlPath ρ :=
  let p := p.request r
  if p.holder = some r then
    match p.slot with
    | some s => (.ready (some s), { p with slot := none }.release)
    | none => if p.senderAlive then (.pending, p) else (.ready none, p.release)
  else (.pending, p)

def cancel (p : ControlPath ρ) (r : ρ) : ControlPath ρ :=
  if p.holder = some r then p.release else { p with queue := p.queue.filter (· ≠ r) }

/-- Takes the signal if there is one and nobody holds the lock. -/
def tryTake (p : ControlPath ρ) : Option Signal × ControlPath ρ :=
  if p.holder = none then (p.slot, { p with slot := none }) else (none, p)

end ControlPath

end ExchangeTap
