import ExchangeTap.Control.Path

namespace ExchangeTap.ControlPath

variable {ρ : Type} {p q : ControlPath ρ} {user : Option ρ}

/-- Nobody waits for the lock, and nobody but `user` holds it. -/
structure UsedBy (p : ControlPath ρ) (user : Option ρ) : Prop where
  queue : p.queue = []
  holder : p.holder = none ∨ p.holder = user

theorem usedBy_empty : (empty : ControlPath ρ).UsedBy none :=
  ⟨rfl, .inl rfl⟩

theorem UsedBy.weaken (used : p.UsedBy none) (user : Option ρ) :
    p.UsedBy user :=
  ⟨used.queue, .inl (used.holder.elim id id)⟩

theorem UsedBy.free (used : p.UsedBy none) : p.holder = none :=
  used.holder.elim id id

theorem UsedBy.congr (used : p.UsedBy user) (holder : q.holder = p.holder)
    (queue : q.queue = p.queue) : q.UsedBy user := by
  refine ⟨queue.trans used.queue, ?_⟩
  rw [holder]
  exact used.holder

theorem tryTake_of_usedBy_none (used : p.UsedBy none) :
    p.tryTake = (p.slot, { p with slot := none }) := by
  rw [tryTake, if_pos used.free]

variable [DecidableEq ρ] {r : ρ}

private theorem request_of_usedBy (used : p.UsedBy (some r)) :
    p.request r = { p with holder := some r } := by
  have empty := used.queue
  obtain ⟨slot, reserved, senderAlive, holder, queue⟩ := p
  cases empty
  rcases used.holder with free | held
  · cases free
    simp [request]
  · cases held
    simp [request]

theorem poll_of_usedBy (used : p.UsedBy (some r)) :
    p.poll r =
      match p.slot with
      | some signal => (.ready (some signal), { p with slot := none, holder := none })
      | none =>
        if p.senderAlive then (.pending, { p with holder := some r })
        else (.ready none, { p with holder := none }) := by
  have empty := used.queue
  rw [poll, request_of_usedBy used]
  obtain ⟨slot, reserved, senderAlive, holder, queue⟩ := p
  cases empty
  cases slot with
  | some signal => simp [release]
  | none => cases senderAlive <;> simp [release]

theorem cancel_of_usedBy (used : p.UsedBy (some r)) :
    p.cancel r = { p with holder := none } := by
  obtain ⟨slot, reserved, senderAlive, holder, queue⟩ := p
  have empty := used.queue
  cases empty
  rcases used.holder with free | held
  · cases free
    simp [cancel]
  · cases held
    simp [cancel, release]

theorem usedBy_cancel (used : p.UsedBy (some r)) : (p.cancel r).UsedBy none := by
  rw [cancel_of_usedBy used]
  exact ⟨used.queue, .inl rfl⟩

end ExchangeTap.ControlPath
